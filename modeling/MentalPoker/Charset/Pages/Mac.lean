import MentalPoker.Charset.CodePage

/-!
# Pages of the first graphical computers

Each line is a row of a page: the characters of sixteen bytes. U+FFFD stands where a byte has no
character.
-/

namespace MentalPoker.CodePage

def macArabic : CodePage := ⟨0x80, [
  "Ä\xa0ÇÉÑÖÜáàâä\u06BA«çéè",
  "êëí…îïñó»ôö÷úùûü",
  " !\"#$٪&'()*+،-./",
  "\u0660\u0661\u0662\u0663\u0664\u0665\u0666\u0667\u0668\u0669:\u061B<=>\u061F",
  "❊\u0621\u0622\u0623\u0624\u0625\u0626\u0627\u0628\u0629\u062A\u062B\u062C\u062D\u062E\u062F",
  "\u0630\u0631\u0632\u0633\u0634\u0635\u0636\u0637\u0638\u0639\u063A[\\]^_",
  "\u0640\u0641\u0642\u0643\u0644\u0645\u0646\u0647\u0648\u0649\u064A\u064B\u064C\u064D\u064E\u064F",
  "\u0650\u0651\u0652\u067E\u0679\u0686\u06D5\u06A4\u06AF\u0688\u0691\x7b|\x7d\u0698\u06D2"]⟩

def macCroatian : CodePage := ⟨0x80, [
  "ÄÅÇÉÑÖÜáàâäãåçéè",
  "êëíìîïñóòôöõúùûü",
  "†°¢£§•¶ß®Š™´¨≠ŽØ",
  "∞±≤≥∆µ∂∑∏š∫ªºΩžø",
  "¿¡¬√ƒ≈Ć«Č…\xa0ÀÃÕŒœ",
  "Đ—“”‘’÷◊\uF8FF©⁄€‹›Æ»",
  "–·‚„‰ÂćÁčÈÍÎÏÌÓÔ",
  "đÒÚÛÙıˆ˜¯πË˚¸Êæˇ"]⟩

def macCyrillic : CodePage := ⟨0x80, [
  "АБВГДЕЖЗИЙКЛМНОП",
  "РСТУФХЦЧШЩЪЫЬЭЮЯ",
  "†°Ґ£§•¶І®©™Ђђ≠Ѓѓ",
  "∞±≤≥іµґЈЄєЇїЉљЊњ",
  "јЅ¬√ƒ≈∆«»…\xa0ЋћЌќѕ",
  "–—“”‘’÷„ЎўЏџ№Ёёя",
  "абвгдежзийклмноп",
  "рстуфхцчшщъыьэю€"]⟩

def macFarsi : CodePage := ⟨0x80, [
  "Ä\xa0ÇÉÑÖÜáàâä\u06BA«çéè",
  "êëí…îïñó»ôö÷úùûü",
  " !\"#$٪&'()*+،-./",
  "۰۱۲۳۴۵۶۷۸۹:\u061B<=>\u061F",
  "❊\u0621\u0622\u0623\u0624\u0625\u0626\u0627\u0628\u0629\u062A\u062B\u062C\u062D\u062E\u062F",
  "\u0630\u0631\u0632\u0633\u0634\u0635\u0636\u0637\u0638\u0639\u063A[\\]^_",
  "\u0640\u0641\u0642\u0643\u0644\u0645\u0646\u0647\u0648\u0649\u064A\u064B\u064C\u064D\u064E\u064F",
  "\u0650\u0651\u0652\u067E\u0679\u0686\u06D5\u06A4\u06AF\u0688\u0691\x7b|\x7d\u0698\u06D2"]⟩

def macGreek : CodePage := ⟨0x80, [
  "Ä¹²É³ÖÜ΅àâä΄¨çéè",
  "êë£™îï•½‰ôö¦€ùûü",
  "†ΓΔΘΛΞΠß®©ΣΪ§≠°·",
  "Α±≤≥¥ΒΕΖΗΙΚΜΦΫΨΩ",
  "άΝ¬ΟΡ≈Τ«»…\xa0ΥΧΆΈœ",
  "–―“”‘’÷ΉΊΌΎέήίόΏ",
  "ύαβψδεφγηιξκλμνο",
  "πώρστθωςχυζϊϋΐΰ\xad"]⟩

def macIceland : CodePage := ⟨0x80, [
  "ÄÅÇÉÑÖÜáàâäãåçéè",
  "êëíìîïñóòôöõúùûü",
  "Ý°¢£§•¶ß®©™´¨≠ÆØ",
  "∞±≤≥¥µ∂∑∏π∫ªºΩæø",
  "¿¡¬√ƒ≈∆«»…\xa0ÀÃÕŒœ",
  "–—“”‘’÷◊ÿŸ⁄€ÐðÞþ",
  "ý·‚„‰ÂÊÁËÈÍÎÏÌÓÔ",
  "\uF8FFÒÚÛÙıˆ˜¯˘˙˚¸˝˛ˇ"]⟩

def macLatin2 : CodePage := ⟨0x80, [
  "ÄĀāÉĄÖÜáąČäčĆćéŹ",
  "źĎíďĒēĖóėôöõúĚěü",
  "†°Ę£§•¶ß®©™ę¨≠ģĮ",
  "įĪ≤≥īĶ∂∑łĻļĽľĹĺŅ",
  "ņŃ¬√ńŇ∆«»…\xa0ňŐÕőŌ",
  "–—“”‘’÷◊ōŔŕŘ‹›řŖ",
  "ŗŠ‚„šŚśÁŤťÍŽžŪÓÔ",
  "ūŮÚůŰűŲųÝýķŻŁżĢˇ"]⟩

def macRoman : CodePage := ⟨0x80, [
  "ÄÅÇÉÑÖÜáàâäãåçéè",
  "êëíìîïñóòôöõúùûü",
  "†°¢£§•¶ß®©™´¨≠ÆØ",
  "∞±≤≥¥µ∂∑∏π∫ªºΩæø",
  "¿¡¬√ƒ≈∆«»…\xa0ÀÃÕŒœ",
  "–—“”‘’÷◊ÿŸ⁄€‹›ﬁﬂ",
  "‡·‚„‰ÂÊÁËÈÍÎÏÌÓÔ",
  "\uF8FFÒÚÛÙıˆ˜¯˘˙˚¸˝˛ˇ"]⟩

def macRomanian : CodePage := ⟨0x80, [
  "ÄÅÇÉÑÖÜáàâäãåçéè",
  "êëíìîïñóòôöõúùûü",
  "†°¢£§•¶ß®©™´¨≠ĂȘ",
  "∞±≤≥¥µ∂∑∏π∫ªºΩăș",
  "¿¡¬√ƒ≈∆«»…\xa0ÀÃÕŒœ",
  "–—“”‘’÷◊ÿŸ⁄€‹›Țț",
  "‡·‚„‰ÂÊÁËÈÍÎÏÌÓÔ",
  "\uF8FFÒÚÛÙıˆ˜¯˘˙˚¸˝˛ˇ"]⟩

def macTurkish : CodePage := ⟨0x80, [
  "ÄÅÇÉÑÖÜáàâäãåçéè",
  "êëíìîïñóòôöõúùûü",
  "†°¢£§•¶ß®©™´¨≠ÆØ",
  "∞±≤≥¥µ∂∑∏π∫ªºΩæø",
  "¿¡¬√ƒ≈∆«»…\xa0ÀÃÕŒœ",
  "–—“”‘’÷◊ÿŸĞğİıŞş",
  "‡·‚„‰ÂÊÁËÈÍÎÏÌÓÔ",
  "\uF8FFÒÚÛÙ\uF8A0ˆ˜¯˘˙˚¸˝˛ˇ"]⟩

end MentalPoker.CodePage
