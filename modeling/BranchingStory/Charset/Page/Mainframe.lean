import BranchingStory.Charset.Page

/-!
# Pages of mainframes

The pages of mainframes, whose letters and digits do not lie where those of ASCII do.
-/

namespace BranchingStory

namespace Charset.Page

/-- The page for the United States. -/
def mainframe037 : Page where
  rows :=
    ["\x00\x01\x02\x03\x9c\x09\x86\x7f\x97\x8d\x8e\x0b\x0c\x0d\x0e\x0f",
     "\x10\x11\x12\x13\x9d\x85\x08\x87\x18\x19\x92\x8f\x1c\x1d\x1e\x1f",
     "\x80\x81\x82\x83\x84\x0a\x17\x1b\x88\x89\x8a\x8b\x8c\x05\x06\x07",
     "\x90\x91\x16\x93\x94\x95\x96\x04\x98\x99\x9a\x9b\x14\x15\x9e\x1a",
     " \xa0âäàáãåçñ¢.<(+|", "&éêëèíîïìß!$*);¬", "-/ÂÄÀÁÃÅÇÑ¦,%_>?", "øÉÊËÈÍÎÏÌ\x60:#@'=\x22",
     "Øabcdefghi«»ðýþ±", "°jklmnopqrªºæ¸Æ¤", "µ~stuvwxyz¡¿ÐÝÞ®", "^£¥·©§¶¼½¾[]¯¨´×",
     "\x7bABCDEFGHI\xadôöòóõ", "\x7dJKLMNOPQR¹ûüùúÿ", "\x5c÷STUVWXYZ²ÔÖÒÓÕ",
     "0123456789³ÛÜÙÚ\x9f"]

/-- The page for German. -/
def mainframe273 : Page where
  rows :=
    ["\x00\x01\x02\x03\x9c\x09\x86\x7f\x97\x8d\x8e\x0b\x0c\x0d\x0e\x0f",
     "\x10\x11\x12\x13\x9d\x85\x08\x87\x18\x19\x92\x8f\x1c\x1d\x1e\x1f",
     "\x80\x81\x82\x83\x84\x0a\x17\x1b\x88\x89\x8a\x8b\x8c\x05\x06\x07",
     "\x90\x91\x16\x93\x94\x95\x96\x04\x98\x99\x9a\x9b\x14\x15\x9e\x1a",
     " \xa0â\x7bàáãåçñÄ.<(+!", "&éêëèíîïì~Ü$*);^", "-/Â[ÀÁÃÅÇÑö,%_>?",
     "øÉÊËÈÍÎÏÌ\x60:#§'=\x22", "Øabcdefghi«»ðýþ±", "°jklmnopqrªºæ¸Æ¤", "µßstuvwxyz¡¿ÐÝÞ®",
     "¢£¥·©@¶¼½¾¬|‾¨´×", "äABCDEFGHI\xadô¦òóõ", "üJKLMNOPQR¹û\x7dùúÿ", "Ö÷STUVWXYZ²Ô\x5cÒÓÕ",
     "0123456789³Û]ÙÚ\x9f"]

/-- The page for Hebrew. -/
def mainframe424 : Page where
  rows :=
    ["\x00\x01\x02\x03\x9c\x09\x86\x7f\x97\x8d\x8e\x0b\x0c\x0d\x0e\x0f",
     "\x10\x11\x12\x13\x9d\x85\x08\x87\x18\x19\x92\x8f\x1c\x1d\x1e\x1f",
     "\x80\x81\x82\x83\x84\x0a\x17\x1b\x88\x89\x8a\x8b\x8c\x05\x06\x07",
     "\x90\x91\x16\x93\x94\x95\x96\x04\x98\x99\x9a\x9b\x14\x15\x9e\x1a",
     " \u05d0\u05d1\u05d2\u05d3\u05d4\u05d5\u05d6\u05d7\u05d8¢.<(+|",
     "&\u05d9\u05da\u05db\u05dc\u05dd\u05de\u05df\u05e0\u05e1!$*);¬",
     "-/\u05e2\u05e3\u05e4\u05e5\u05e6\u05e7\u05e8\u05e9¦,%_>?",
     "\ufffd\u05ea\ufffd\ufffd\xa0\ufffd\ufffd\ufffd‗\x60:#@'=\x22",
     "\ufffdabcdefghi«»\ufffd\ufffd\ufffd±", "°jklmnopqr\ufffd\ufffd\ufffd¸\ufffd¤",
     "µ~stuvwxyz\ufffd\ufffd\ufffd\ufffd\ufffd®", "^£¥·©§¶¼½¾[]¯¨´×",
     "\x7bABCDEFGHI\xad\ufffd\ufffd\ufffd\ufffd\ufffd",
     "\x7dJKLMNOPQR¹\ufffd\ufffd\ufffd\ufffd\ufffd",
     "\x5c÷STUVWXYZ²\ufffd\ufffd\ufffd\ufffd\ufffd",
     "0123456789³\ufffd\ufffd\ufffd\ufffd\x9f"]

/-- The page for Western Europe. -/
def mainframe500 : Page where
  rows :=
    ["\x00\x01\x02\x03\x9c\x09\x86\x7f\x97\x8d\x8e\x0b\x0c\x0d\x0e\x0f",
     "\x10\x11\x12\x13\x9d\x85\x08\x87\x18\x19\x92\x8f\x1c\x1d\x1e\x1f",
     "\x80\x81\x82\x83\x84\x0a\x17\x1b\x88\x89\x8a\x8b\x8c\x05\x06\x07",
     "\x90\x91\x16\x93\x94\x95\x96\x04\x98\x99\x9a\x9b\x14\x15\x9e\x1a",
     " \xa0âäàáãåçñ[.<(+!", "&éêëèíîïìß]$*);^", "-/ÂÄÀÁÃÅÇÑ¦,%_>?", "øÉÊËÈÍÎÏÌ\x60:#@'=\x22",
     "Øabcdefghi«»ðýþ±", "°jklmnopqrªºæ¸Æ¤", "µ~stuvwxyz¡¿ÐÝÞ®", "¢£¥·©§¶¼½¾¬|¯¨´×",
     "\x7bABCDEFGHI\xadôöòóõ", "\x7dJKLMNOPQR¹ûüùúÿ", "\x5c÷STUVWXYZ²ÔÖÒÓÕ",
     "0123456789³ÛÜÙÚ\x9f"]

/-- The page for Greek. -/
def mainframe875 : Page where
  rows :=
    ["\x00\x01\x02\x03\x9c\x09\x86\x7f\x97\x8d\x8e\x0b\x0c\x0d\x0e\x0f",
     "\x10\x11\x12\x13\x9d\x85\x08\x87\x18\x19\x92\x8f\x1c\x1d\x1e\x1f",
     "\x80\x81\x82\x83\x84\x0a\x17\x1b\x88\x89\x8a\x8b\x8c\x05\x06\x07",
     "\x90\x91\x16\x93\x94\x95\x96\x04\x98\x99\x9a\x9b\x14\x15\x9e\x1a", " ΑΒΓΔΕΖΗΘΙ[.<(+!",
     "&ΚΛΜΝΞΟΠΡΣ]$*);^", "-/ΤΥΦΧΨΩΪΫ|,%_>?", "¨ΆΈΉ\xa0ΊΌΎΏ\x60:#@'=\x22", "΅abcdefghiαβγδεζ",
     "°jklmnopqrηθικλμ", "´~stuvwxyzνξοπρσ", "£άέήϊίόύϋώςτυφχψ", "\x7bABCDEFGHI\xadωΐΰ‘―",
     "\x7dJKLMNOPQR±½\x1a·’¦", "\x5c\x1aSTUVWXYZ²§\x1a\x1a«¬", "0123456789³©\x1a\x1a»\x9f"]

/-- The page for Turkish. -/
def mainframe1026 : Page where
  rows :=
    ["\x00\x01\x02\x03\x9c\x09\x86\x7f\x97\x8d\x8e\x0b\x0c\x0d\x0e\x0f",
     "\x10\x11\x12\x13\x9d\x85\x08\x87\x18\x19\x92\x8f\x1c\x1d\x1e\x1f",
     "\x80\x81\x82\x83\x84\x0a\x17\x1b\x88\x89\x8a\x8b\x8c\x05\x06\x07",
     "\x90\x91\x16\x93\x94\x95\x96\x04\x98\x99\x9a\x9b\x14\x15\x9e\x1a",
     " \xa0âäàáãå\x7bñÇ.<(+!", "&éêëèíîïìßĞİ*);^", "-/ÂÄÀÁÃÅ[Ñş,%_>?", "øÉÊËÈÍÎÏÌı:ÖŞ'=Ü",
     "Øabcdefghi«»\x7d\x60¦±", "°jklmnopqrªºæ¸Æ¤", "µöstuvwxyz¡¿]$@®", "¢£¥·©§¶¼½¾¬|¯¨´×",
     "çABCDEFGHI\xadô~òóõ", "ğJKLMNOPQR¹û\x5cùúÿ", "ü÷STUVWXYZ²Ô#ÒÓÕ",
     "0123456789³Û\x22ÙÚ\x9f"]

/-- The page for the United States, with the euro sign. -/
def mainframe1140 : Page where
  rows :=
    ["\x00\x01\x02\x03\x9c\x09\x86\x7f\x97\x8d\x8e\x0b\x0c\x0d\x0e\x0f",
     "\x10\x11\x12\x13\x9d\x85\x08\x87\x18\x19\x92\x8f\x1c\x1d\x1e\x1f",
     "\x80\x81\x82\x83\x84\x0a\x17\x1b\x88\x89\x8a\x8b\x8c\x05\x06\x07",
     "\x90\x91\x16\x93\x94\x95\x96\x04\x98\x99\x9a\x9b\x14\x15\x9e\x1a",
     " \xa0âäàáãåçñ¢.<(+|", "&éêëèíîïìß!$*);¬", "-/ÂÄÀÁÃÅÇÑ¦,%_>?", "øÉÊËÈÍÎÏÌ\x60:#@'=\x22",
     "Øabcdefghi«»ðýþ±", "°jklmnopqrªºæ¸Æ€", "µ~stuvwxyz¡¿ÐÝÞ®", "^£¥·©§¶¼½¾[]¯¨´×",
     "\x7bABCDEFGHI\xadôöòóõ", "\x7dJKLMNOPQR¹ûüùúÿ", "\x5c÷STUVWXYZ²ÔÖÒÓÕ",
     "0123456789³ÛÜÙÚ\x9f"]

end Charset.Page

end BranchingStory
