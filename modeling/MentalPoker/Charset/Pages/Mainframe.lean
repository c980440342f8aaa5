import MentalPoker.Charset.CodePage

/-!
# Pages of mainframes, where not even the letters stand in a row

Each line is a row of a page: the characters of sixteen bytes. U+FFFD stands where a byte has no
character.
-/

namespace MentalPoker.CodePage

def mainframe037 : CodePage := ⟨0x00, [
  "\x00\x01\x02\x03\x9c\x09\x86\x7f\x97\x8d\x8e\x0b\x0c\x0d\x0e\x0f",
  "\x10\x11\x12\x13\x9d\x85\x08\x87\x18\x19\x92\x8f\x1c\x1d\x1e\x1f",
  "\x80\x81\x82\x83\x84\x0a\x17\x1b\x88\x89\x8a\x8b\x8c\x05\x06\x07",
  "\x90\x91\x16\x93\x94\x95\x96\x04\x98\x99\x9a\x9b\x14\x15\x9e\x1a",
  " \xa0âäàáãåçñ¢.<(+|",
  "&éêëèíîïìß!$*);¬",
  "-/ÂÄÀÁÃÅÇÑ¦,%_>?",
  "øÉÊËÈÍÎÏÌ\x60:#@'=\"",
  "Øabcdefghi«»ðýþ±",
  "°jklmnopqrªºæ¸Æ¤",
  "µ~stuvwxyz¡¿ÐÝÞ®",
  "^£¥·©§¶¼½¾[]¯¨´×",
  "\x7bABCDEFGHI\xadôöòóõ",
  "\x7dJKLMNOPQR¹ûüùúÿ",
  "\\÷STUVWXYZ²ÔÖÒÓÕ",
  "0123456789³ÛÜÙÚ\x9f"]⟩

def mainframe273 : CodePage := ⟨0x00, [
  "\x00\x01\x02\x03\x9c\x09\x86\x7f\x97\x8d\x8e\x0b\x0c\x0d\x0e\x0f",
  "\x10\x11\x12\x13\x9d\x85\x08\x87\x18\x19\x92\x8f\x1c\x1d\x1e\x1f",
  "\x80\x81\x82\x83\x84\x0a\x17\x1b\x88\x89\x8a\x8b\x8c\x05\x06\x07",
  "\x90\x91\x16\x93\x94\x95\x96\x04\x98\x99\x9a\x9b\x14\x15\x9e\x1a",
  " \xa0â\x7bàáãåçñÄ.<(+!",
  "&éêëèíîïì~Ü$*);^",
  "-/Â[ÀÁÃÅÇÑö,%_>?",
  "øÉÊËÈÍÎÏÌ\x60:#§'=\"",
  "Øabcdefghi«»ðýþ±",
  "°jklmnopqrªºæ¸Æ¤",
  "µßstuvwxyz¡¿ÐÝÞ®",
  "¢£¥·©@¶¼½¾¬|‾¨´×",
  "äABCDEFGHI\xadô¦òóõ",
  "üJKLMNOPQR¹û\x7dùúÿ",
  "Ö÷STUVWXYZ²Ô\\ÒÓÕ",
  "0123456789³Û]ÙÚ\x9f"]⟩

def mainframe424 : CodePage := ⟨0x00, [
  "\x00\x01\x02\x03\x9c\x09\x86\x7f\x97\x8d\x8e\x0b\x0c\x0d\x0e\x0f",
  "\x10\x11\x12\x13\x9d\x85\x08\x87\x18\x19\x92\x8f\x1c\x1d\x1e\x1f",
  "\x80\x81\x82\x83\x84\x0a\x17\x1b\x88\x89\x8a\x8b\x8c\x05\x06\x07",
  "\x90\x91\x16\x93\x94\x95\x96\x04\x98\x99\x9a\x9b\x14\x15\x9e\x1a",
  " \u05D0\u05D1\u05D2\u05D3\u05D4\u05D5\u05D6\u05D7\u05D8¢.<(+|",
  "&\u05D9\u05DA\u05DB\u05DC\u05DD\u05DE\u05DF\u05E0\u05E1!$*);¬",
  "-/\u05E2\u05E3\u05E4\u05E5\u05E6\u05E7\u05E8\u05E9¦,%_>?",
  "\uFFFD\u05EA\uFFFD\uFFFD\xa0\uFFFD\uFFFD\uFFFD‗\x60:#@'=\"",
  "\uFFFDabcdefghi«»\uFFFD\uFFFD\uFFFD±",
  "°jklmnopqr\uFFFD\uFFFD\uFFFD¸\uFFFD¤",
  "µ~stuvwxyz\uFFFD\uFFFD\uFFFD\uFFFD\uFFFD®",
  "^£¥·©§¶¼½¾[]¯¨´×",
  "\x7bABCDEFGHI\xad\uFFFD\uFFFD\uFFFD\uFFFD\uFFFD",
  "\x7dJKLMNOPQR¹\uFFFD\uFFFD\uFFFD\uFFFD\uFFFD",
  "\\÷STUVWXYZ²\uFFFD\uFFFD\uFFFD\uFFFD\uFFFD",
  "0123456789³\uFFFD\uFFFD\uFFFD\uFFFD\x9f"]⟩

def mainframe500 : CodePage := ⟨0x00, [
  "\x00\x01\x02\x03\x9c\x09\x86\x7f\x97\x8d\x8e\x0b\x0c\x0d\x0e\x0f",
  "\x10\x11\x12\x13\x9d\x85\x08\x87\x18\x19\x92\x8f\x1c\x1d\x1e\x1f",
  "\x80\x81\x82\x83\x84\x0a\x17\x1b\x88\x89\x8a\x8b\x8c\x05\x06\x07",
  "\x90\x91\x16\x93\x94\x95\x96\x04\x98\x99\x9a\x9b\x14\x15\x9e\x1a",
  " \xa0âäàáãåçñ[.<(+!",
  "&éêëèíîïìß]$*);^",
  "-/ÂÄÀÁÃÅÇÑ¦,%_>?",
  "øÉÊËÈÍÎÏÌ\x60:#@'=\"",
  "Øabcdefghi«»ðýþ±",
  "°jklmnopqrªºæ¸Æ¤",
  "µ~stuvwxyz¡¿ÐÝÞ®",
  "¢£¥·©§¶¼½¾¬|¯¨´×",
  "\x7bABCDEFGHI\xadôöòóõ",
  "\x7dJKLMNOPQR¹ûüùúÿ",
  "\\÷STUVWXYZ²ÔÖÒÓÕ",
  "0123456789³ÛÜÙÚ\x9f"]⟩

def mainframe875 : CodePage := ⟨0x00, [
  "\x00\x01\x02\x03\x9c\x09\x86\x7f\x97\x8d\x8e\x0b\x0c\x0d\x0e\x0f",
  "\x10\x11\x12\x13\x9d\x85\x08\x87\x18\x19\x92\x8f\x1c\x1d\x1e\x1f",
  "\x80\x81\x82\x83\x84\x0a\x17\x1b\x88\x89\x8a\x8b\x8c\x05\x06\x07",
  "\x90\x91\x16\x93\x94\x95\x96\x04\x98\x99\x9a\x9b\x14\x15\x9e\x1a",
  " ΑΒΓΔΕΖΗΘΙ[.<(+!",
  "&ΚΛΜΝΞΟΠΡΣ]$*);^",
  "-/ΤΥΦΧΨΩΪΫ|,%_>?",
  "¨ΆΈΉ\xa0ΊΌΎΏ\x60:#@'=\"",
  "΅abcdefghiαβγδεζ",
  "°jklmnopqrηθικλμ",
  "´~stuvwxyzνξοπρσ",
  "£άέήϊίόύϋώςτυφχψ",
  "\x7bABCDEFGHI\xadωΐΰ‘―",
  "\x7dJKLMNOPQR±½\x1a·’¦",
  "\\\x1aSTUVWXYZ²§\x1a\x1a«¬",
  "0123456789³©\x1a\x1a»\x9f"]⟩

def mainframe1026 : CodePage := ⟨0x00, [
  "\x00\x01\x02\x03\x9c\x09\x86\x7f\x97\x8d\x8e\x0b\x0c\x0d\x0e\x0f",
  "\x10\x11\x12\x13\x9d\x85\x08\x87\x18\x19\x92\x8f\x1c\x1d\x1e\x1f",
  "\x80\x81\x82\x83\x84\x0a\x17\x1b\x88\x89\x8a\x8b\x8c\x05\x06\x07",
  "\x90\x91\x16\x93\x94\x95\x96\x04\x98\x99\x9a\x9b\x14\x15\x9e\x1a",
  " \xa0âäàáãå\x7bñÇ.<(+!",
  "&éêëèíîïìßĞİ*);^",
  "-/ÂÄÀÁÃÅ[Ñş,%_>?",
  "øÉÊËÈÍÎÏÌı:ÖŞ'=Ü",
  "Øabcdefghi«»\x7d\x60¦±",
  "°jklmnopqrªºæ¸Æ¤",
  "µöstuvwxyz¡¿]$@®",
  "¢£¥·©§¶¼½¾¬|¯¨´×",
  "çABCDEFGHI\xadô~òóõ",
  "ğJKLMNOPQR¹û\\ùúÿ",
  "ü÷STUVWXYZ²Ô#ÒÓÕ",
  "0123456789³Û\"ÙÚ\x9f"]⟩

def mainframe1140 : CodePage := ⟨0x00, [
  "\x00\x01\x02\x03\x9c\x09\x86\x7f\x97\x8d\x8e\x0b\x0c\x0d\x0e\x0f",
  "\x10\x11\x12\x13\x9d\x85\x08\x87\x18\x19\x92\x8f\x1c\x1d\x1e\x1f",
  "\x80\x81\x82\x83\x84\x0a\x17\x1b\x88\x89\x8a\x8b\x8c\x05\x06\x07",
  "\x90\x91\x16\x93\x94\x95\x96\x04\x98\x99\x9a\x9b\x14\x15\x9e\x1a",
  " \xa0âäàáãåçñ¢.<(+|",
  "&éêëèíîïìß!$*);¬",
  "-/ÂÄÀÁÃÅÇÑ¦,%_>?",
  "øÉÊËÈÍÎÏÌ\x60:#@'=\"",
  "Øabcdefghi«»ðýþ±",
  "°jklmnopqrªºæ¸Æ€",
  "µ~stuvwxyz¡¿ÐÝÞ®",
  "^£¥·©§¶¼½¾[]¯¨´×",
  "\x7bABCDEFGHI\xadôöòóõ",
  "\x7dJKLMNOPQR¹ûüùúÿ",
  "\\÷STUVWXYZ²ÔÖÒÓÕ",
  "0123456789³ÛÜÙÚ\x9f"]⟩

end MentalPoker.CodePage
