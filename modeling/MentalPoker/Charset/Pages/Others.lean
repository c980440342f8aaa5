import MentalPoker.Charset.CodePage

/-!
# Pages of their own

Each line is a row of a page: the characters of sixteen bytes. U+FFFD stands where a byte has no
character.
-/

namespace MentalPoker.CodePage

def koi8Russian : CodePage := ⟨0x80, [
  "─│┌┐└┘├┤┬┴┼▀▄█▌▐",
  "░▒▓⌠■∙√≈≤≥\xa0⌡°²·÷",
  "═║╒ё╓╔╕╖╗╘╙╚╛╜╝╞",
  "╟╠╡Ё╢╣╤╥╦╧╨╩╪╫╬©",
  "юабцдефгхийклмно",
  "пярстужвьызшэщчъ",
  "ЮАБЦДЕФГХИЙКЛМНО",
  "ПЯРСТУЖВЬЫЗШЭЩЧЪ"]⟩

def koi8Tajik : CodePage := ⟨0x80, [
  "қғ‚Ғ„…†‡\uFFFD‰ҳ‹ҲҷҶ\uFFFD",
  "Қ‘’“”•–—\uFFFD™\uFFFD›\uFFFD\uFFFD\uFFFD\uFFFD",
  "\uFFFDӯӮё¤ӣ¦§\uFFFD\uFFFD\uFFFD«¬\xad®\uFFFD",
  "°±²Ё\uFFFDӢ¶·\uFFFD№\uFFFD»\uFFFD\uFFFD\uFFFD©",
  "юабцдефгхийклмно",
  "пярстужвьызшэщчъ",
  "ЮАБЦДЕФГХИЙКЛМНО",
  "ПЯРСТУЖВЬЫЗШЭЩЧЪ"]⟩

def koi8Ukrainian : CodePage := ⟨0x80, [
  "─│┌┐└┘├┤┬┴┼▀▄█▌▐",
  "░▒▓⌠■∙√≈≤≥\xa0⌡°²·÷",
  "═║╒ёє╔ії╗╘╙╚╛ґ╝╞",
  "╟╠╡ЁЄ╣ІЇ╦╧╨╩╪Ґ╬©",
  "юабцдефгхийклмно",
  "пярстужвьызшэщчъ",
  "ЮАБЦДЕФГХИЙКЛМНО",
  "ПЯРСТУЖВЬЫЗШЭЩЧЪ"]⟩

def roman8 : CodePage := ⟨0xA0, [
  "\xa0ÀÂÈÊËÎÏ´ˋˆ¨˜ÙÛ₤",
  "¯Ýý°ÇçÑñ¡¿¤£¥§ƒ¢",
  "âêôûáéóúàèòùäëöü",
  "ÅîØÆåíøæÄìÖÜÉïßÔ",
  "ÁÃãÐðÍÌÓÒÕõŠšÚŸÿ",
  "Þþ·µ¶¾—¼½ªº«■»±\uFFFD"]⟩

end MentalPoker.CodePage
