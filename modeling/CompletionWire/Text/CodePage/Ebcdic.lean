import CompletionWire.Text.CodePage

/-!
# EBCDIC pages

Pages for mainframes, in which even letters and digits have places of their own.
-/

namespace CompletionWire

namespace CodePage

def ebcdicPages : List CodePage := [
  { name := "cp037"
    aliases := ["037", "csibm037", "ebcdic_cp_ca", "ebcdic_cp_nl", "ebcdic_cp_us", "ebcdic_cp_wt",
      "ibm037", "ibm039"]
    differing := [
      (0x04, "\u009c\x09\u0086\x7f\u0097\u008d\u008e"),
      (0x14, "\u009d\u0085\x08\u0087\x18\x19\u0092\u008f"),
      (0x20, "\u0080\u0081\u0082\u0083\u0084\x0a\x17\x1b\u0088\u0089\u008a\u008b\u008c\x05\x06"),
      (0x2F, "\x07\u0090\u0091\x16\u0093\u0094\u0095\u0096\x04\u0098\u0099\u009a\u009b\x14\x15"),
      (0x3E, "\u009e\x1a \u00a0âäàáãåçñ¢.<(+|&éêëèíîïìß!$*);¬-/ÂÄÀÁÃÅÇÑ¦,%_>?øÉÊËÈÍÎÏÌ`:#@'=\"Øa"),
      (0x82, "bcdefghi«»ðýþ±°jklmnopqrªºæ¸Æ¤µ~stuvwxyz¡¿ÐÝÞ®^£¥·©§¶¼½¾[]¯¨´×\x7bABCDEFGHI\u00adô"),
      (0xCC, "öòóõ\x7dJKLMNOPQR¹ûüùúÿ\\÷STUVWXYZ²ÔÖÒÓÕ0123456789³ÛÜÙÚ\u009f")] },
  { name := "cp273"
    aliases := ["273", "csibm273", "ibm273"]
    differing := [
      (0x04, "\u009c\x09\u0086\x7f\u0097\u008d\u008e"),
      (0x14, "\u009d\u0085\x08\u0087\x18\x19\u0092\u008f"),
      (0x20, "\u0080\u0081\u0082\u0083\u0084\x0a\x17\x1b\u0088\u0089\u008a\u008b\u008c\x05\x06"),
      (0x2F, "\x07\u0090\u0091\x16\u0093\u0094\u0095\u0096\x04\u0098\u0099\u009a\u009b\x14\x15"),
      (0x3E, "\u009e\x1a \u00a0â\x7bàáãåçñÄ.<(+!&éêëèíîïì~Ü$*);^-/Â[ÀÁÃÅÇÑö,%_>?øÉÊËÈÍÎÏÌ`:#§'="),
      (0x7F, "\"Øabcdefghi«»ðýþ±°jklmnopqrªºæ¸Æ¤µßstuvwxyz¡¿ÐÝÞ®¢£¥·©@¶¼½¾¬|‾¨´×äABCDEFGHI\u00ad"),
      (0xCB, "ô¦òóõüJKLMNOPQR¹û\x7dùúÿÖ÷STUVWXYZ²Ô\\ÒÓÕ0123456789³Û]ÙÚ\u009f")] },
  { name := "cp424"
    aliases := ["424", "csibm424", "ebcdic_cp_he", "ibm424"]
    differing := [
      (0x04, "\u009c\x09\u0086\x7f\u0097\u008d\u008e"),
      (0x14, "\u009d\u0085\x08\u0087\x18\x19\u0092\u008f"),
      (0x20, "\u0080\u0081\u0082\u0083\u0084\x0a\x17\x1b\u0088\u0089\u008a\u008b\u008c\x05\x06"),
      (0x2F, "\x07\u0090\u0091\x16\u0093\u0094\u0095\u0096\x04\u0098\u0099\u009a\u009b\x14\x15"),
      (0x3E, "\u009e\x1a \u05d0\u05d1\u05d2\u05d3\u05d4\u05d5\u05d6\u05d7\u05d8¢.<(+|&\u05d9"),
      (0x52, "\u05da\u05db\u05dc\u05dd\u05de\u05df\u05e0\u05e1!$*);¬-/\u05e2\u05e3\u05e4\u05e5"),
      (0x66, "\u05e6\u05e7\u05e8\u05e9¦,%_>?�\u05ea��\u00a0���‗`:#@'=\"�abcdefghi«»���±°jklmnopq"),
      (0x99, "r���¸�¤µ~stuvwxyz�����®^£¥·©§¶¼½¾[]¯¨´×\x7bABCDEFGHI\u00ad�����\x7dJKLMNOPQR¹�����"),
      (0xE0, "\\÷STUVWXYZ²�����0123456789³����\u009f")] },
  { name := "cp500"
    aliases := ["500", "csibm500", "ebcdic_cp_be", "ebcdic_cp_ch", "ibm500"]
    differing := [
      (0x04, "\u009c\x09\u0086\x7f\u0097\u008d\u008e"),
      (0x14, "\u009d\u0085\x08\u0087\x18\x19\u0092\u008f"),
      (0x20, "\u0080\u0081\u0082\u0083\u0084\x0a\x17\x1b\u0088\u0089\u008a\u008b\u008c\x05\x06"),
      (0x2F, "\x07\u0090\u0091\x16\u0093\u0094\u0095\u0096\x04\u0098\u0099\u009a\u009b\x14\x15"),
      (0x3E, "\u009e\x1a \u00a0âäàáãåçñ[.<(+!&éêëèíîïìß]$*);^-/ÂÄÀÁÃÅÇÑ¦,%_>?øÉÊËÈÍÎÏÌ`:#@'=\"Øa"),
      (0x82, "bcdefghi«»ðýþ±°jklmnopqrªºæ¸Æ¤µ~stuvwxyz¡¿ÐÝÞ®¢£¥·©§¶¼½¾¬|¯¨´×\x7bABCDEFGHI\u00adô"),
      (0xCC, "öòóõ\x7dJKLMNOPQR¹ûüùúÿ\\÷STUVWXYZ²ÔÖÒÓÕ0123456789³ÛÜÙÚ\u009f")] },
  { name := "cp875"
    differing := [
      (0x04, "\u009c\x09\u0086\x7f\u0097\u008d\u008e"),
      (0x14, "\u009d\u0085\x08\u0087\x18\x19\u0092\u008f"),
      (0x20, "\u0080\u0081\u0082\u0083\u0084\x0a\x17\x1b\u0088\u0089\u008a\u008b\u008c\x05\x06"),
      (0x2F, "\x07\u0090\u0091\x16\u0093\u0094\u0095\u0096\x04\u0098\u0099\u009a\u009b\x14\x15"),
      (0x3E, "\u009e\x1a ΑΒΓΔΕΖΗΘΙ[.<(+!&ΚΛΜΝΞΟΠΡΣ]$*);^-/ΤΥΦΧΨΩΪΫ|,%_>?¨ΆΈΉ\u00a0ΊΌΎΏ`:#@'=\"΅a"),
      (0x82, "bcdefghiαβγδεζ°jklmnopqrηθικλμ´~stuvwxyzνξοπρσ£άέήϊίόύϋώςτυφχψ\x7bABCDEFGHI\u00adω"),
      (0xCC, "ΐΰ‘―\x7dJKLMNOPQR±½\x1a·’¦\\\x1aSTUVWXYZ²§\x1a\x1a«¬0123456789³©\x1a\x1a»\u009f")] },
  { name := "cp1026"
    aliases := ["1026", "csibm1026", "ibm1026"]
    differing := [
      (0x04, "\u009c\x09\u0086\x7f\u0097\u008d\u008e"),
      (0x14, "\u009d\u0085\x08\u0087\x18\x19\u0092\u008f"),
      (0x20, "\u0080\u0081\u0082\u0083\u0084\x0a\x17\x1b\u0088\u0089\u008a\u008b\u008c\x05\x06"),
      (0x2F, "\x07\u0090\u0091\x16\u0093\u0094\u0095\u0096\x04\u0098\u0099\u009a\u009b\x14\x15"),
      (0x3E, "\u009e\x1a \u00a0âäàáãå\x7bñÇ.<(+!&éêëèíîïìßĞİ*);^-/ÂÄÀÁÃÅ[Ñş,%_>?øÉÊËÈÍÎÏÌı:ÖŞ'=Ü"),
      (0x80, "Øabcdefghi«»\x7d`¦±°jklmnopqrªºæ¸Æ¤µöstuvwxyz¡¿]$@®¢£¥·©§¶¼½¾¬|¯¨´×çABCDEFGHI"),
      (0xCA, "\u00adô~òóõğJKLMNOPQR¹û\\ùúÿü÷STUVWXYZ²Ô#ÒÓÕ0123456789³Û\"ÙÚ\u009f")] },
  { name := "cp1140"
    aliases := ["1140", "ibm1140"]
    differing := [
      (0x04, "\u009c\x09\u0086\x7f\u0097\u008d\u008e"),
      (0x14, "\u009d\u0085\x08\u0087\x18\x19\u0092\u008f"),
      (0x20, "\u0080\u0081\u0082\u0083\u0084\x0a\x17\x1b\u0088\u0089\u008a\u008b\u008c\x05\x06"),
      (0x2F, "\x07\u0090\u0091\x16\u0093\u0094\u0095\u0096\x04\u0098\u0099\u009a\u009b\x14\x15"),
      (0x3E, "\u009e\x1a \u00a0âäàáãåçñ¢.<(+|&éêëèíîïìß!$*);¬-/ÂÄÀÁÃÅÇÑ¦,%_>?øÉÊËÈÍÎÏÌ`:#@'=\"Øa"),
      (0x82, "bcdefghi«»ðýþ±°jklmnopqrªºæ¸Æ€µ~stuvwxyz¡¿ÐÝÞ®^£¥·©§¶¼½¾[]¯¨´×\x7bABCDEFGHI\u00adô"),
      (0xCC, "öòóõ\x7dJKLMNOPQR¹ûüùúÿ\\÷STUVWXYZ²ÔÖÒÓÕ0123456789³ÛÜÙÚ\u009f")] }]

end CodePage

end CompletionWire
