import CompletionWire.Text.CodePage

/-!
# ISO pages

Pages of ISO 8859: control characters up to 0x9F, and letters of one region from 0xA0 on. The
first of them gives every byte the code point of its number.
-/

namespace CompletionWire

namespace CodePage

/-- The page of Greek, in its version with signs of money. -/
def greek : CodePage where
  name := "iso8859_7"
  aliases := ["csisolatingreek", "ecma_118", "elot_928", "greek", "greek8", "iso_8859_7",
    "iso_8859_7_1987", "iso_ir_126"]
  differing := [
    (0xA1, "‘’£€₯"), (0xAA, "ͺ«¬\u00ad�―"),
    (0xB4, "΄΅Ά·ΈΉΊ»Ό½ΎΏΐΑΒΓΔΕΖΗΘΙΚΛΜΝΞΟΠΡ�ΣΤΥΦΧΨΩΪΫάέήίΰαβγδεζηθικλμνξοπρςστυφχψωϊϋόύώ�")]

def isoPages : List CodePage := [
  { name := "latin_1"
    aliases := ["8859", "cp819", "csisolatin1", "ibm819", "iso8859", "iso8859_1", "iso_8859_1",
      "iso_8859_1_1987", "iso_ir_100", "l1", "latin", "latin1"] },
  { name := "iso8859_1" },
  { name := "iso8859_2"
    aliases := ["csisolatin2", "iso_8859_2", "iso_8859_2_1987", "iso_ir_101", "l2", "latin2"]
    differing := [
      (0xA1, "Ą˘Ł¤ĽŚ§¨ŠŞŤŹ\u00adŽŻ°ą˛ł´ľśˇ¸šşťź˝žżŔÁÂĂÄĹĆÇČÉĘËĚÍÎĎĐŃŇÓÔŐÖ×ŘŮÚŰÜÝŢßŕáâăäĺćçčéęëěí"),
      (0xEE, "îďđńňóôőö÷řůúűüýţ˙")] },
  { name := "iso8859_3"
    aliases := ["csisolatin3", "iso_8859_3", "iso_8859_3_1988", "iso_ir_109", "l3", "latin3"]
    differing := [
      (0xA1, "Ħ˘£¤�Ĥ§¨İŞĞĴ\u00ad�Ż°ħ"), (0xB6, "ĥ·¸ışğĵ½�żÀÁÂ�ÄĊĈ"), (0xD0, "�"), (0xD5, "ĠÖ×Ĝ"),
      (0xDD, "ŬŜ"), (0xE3, "�äċĉ"), (0xF0, "�"), (0xF5, "ġö÷ĝ"), (0xFD, "ŭŝ˙")] },
  { name := "iso8859_4"
    aliases := ["csisolatin4", "iso_8859_4", "iso_8859_4_1988", "iso_ir_110", "l4", "latin4"]
    differing := [
      (0xA1, "ĄĸŖ¤ĨĻ§¨ŠĒĢŦ\u00adŽ¯°ą˛ŗ´ĩļˇ¸šēģŧŊžŋĀ"), (0xC7, "ĮČÉĘËĖÍÎĪĐŅŌĶ"),
      (0xD9, "ŲÚÛÜŨŪßā"), (0xE7, "įčéęëėíîīđņōķ"), (0xF9, "ųúûüũū˙")] },
  { name := "iso8859_5"
    aliases := ["csisolatincyrillic", "cyrillic", "iso_8859_5", "iso_8859_5_1988", "iso_ir_144"]
    differing := [
      (0xA1, "ЁЂЃЄЅІЇЈЉЊЋЌ\u00adЎЏАБВГДЕЖЗИЙКЛМНОПРСТУФХЦЧШЩЪЫЬЭЮЯабвгдежзийклмнопрстуфхцчшщъыьэ"),
      (0xEE, "юя№ёђѓєѕіїјљњћќ§ўџ")] },
  { name := "iso8859_6"
    aliases := ["arabic", "asmo_708", "csisolatinarabic", "ecma_114", "iso_8859_6",
      "iso_8859_6_1987", "iso_ir_127"]
    differing := [
      (0xA1, "���¤�������،\u00ad�������������\u061b���\u061f�\u0621\u0622\u0623\u0624\u0625"),
      (0xC6, "\u0626\u0627\u0628\u0629\u062a\u062b\u062c\u062d\u062e\u062f\u0630\u0631\u0632"),
      (0xD3, "\u0633\u0634\u0635\u0636\u0637\u0638\u0639\u063a�����\u0640\u0641\u0642\u0643"),
      (0xE4, "\u0644\u0645\u0646\u0647\u0648\u0649\u064a\u064b\u064c\u064d\u064e\u064f\u0650"),
      (0xF1, "\u0651\u0652�������������")] },
  greek,
  { name := "iso8859_8"
    aliases := ["csisolatinhebrew", "hebrew", "iso_8859_8", "iso_8859_8_1988", "iso_ir_138"]
    differing := [
      (0xA1, "�"), (0xAA, "×"), (0xBA, "÷"),
      (0xBF, "��������������������������������‗\u05d0\u05d1\u05d2\u05d3\u05d4\u05d5\u05d6\u05d7"),
      (0xE8, "\u05d8\u05d9\u05da\u05db\u05dc\u05dd\u05de\u05df\u05e0\u05e1\u05e2\u05e3\u05e4"),
      (0xF5, "\u05e5\u05e6\u05e7\u05e8\u05e9\u05ea��\u200e\u200f�")] },
  { name := "iso8859_9"
    aliases := ["csisolatin5", "iso_8859_9", "iso_8859_9_1989", "iso_ir_148", "l5", "latin5"]
    differing := [
      (0xD0, "Ğ"), (0xDD, "İŞ"), (0xF0, "ğ"), (0xFD, "ış")] },
  { name := "iso8859_10"
    aliases := ["csisolatin6", "iso_8859_10", "iso_8859_10_1992", "iso_ir_157", "l6", "latin6"]
    differing := [
      (0xA1, "ĄĒĢĪĨĶ§ĻĐŠŦŽ\u00adŪŊ°ąēģīĩķ·ļđšŧž―ūŋĀ"), (0xC7, "ĮČÉĘËĖ"), (0xD1, "ŅŌ"),
      (0xD7, "ŨØŲ"), (0xE0, "ā"), (0xE7, "įčéęëė"), (0xF1, "ņō"), (0xF7, "ũøų"), (0xFF, "ĸ")] },
  { name := "iso8859_11"
    aliases := ["iso_8859_11", "iso_8859_11_2001", "thai"]
    differing := [
      (0xA1, "กขฃคฅฆงจฉชซฌญฎฏฐฑฒณดตถทธนบปผฝพฟภมยรฤลฦวศษสหฬอฮฯะ\u0e31าำ\u0e34\u0e35\u0e36\u0e37"),
      (0xD8, "\u0e38\u0e39\u0e3a����฿เแโใไๅๆ\u0e47\u0e48\u0e49\u0e4a\u0e4b\u0e4c\u0e4d\u0e4e๏๐๑๒"),
      (0xF3, "๓๔๕๖๗๘๙๚๛����")] },
  { name := "iso8859_13"
    aliases := ["iso_8859_13", "l7", "latin7"]
    differing := [
      (0xA1, "”¢£¤„¦§Ø©Ŗ"), (0xAF, "Æ"), (0xB4, "“µ¶·ø¹ŗ"),
      (0xBF, "æĄĮĀĆÄÅĘĒČÉŹĖĢĶĪĻŠŃŅÓŌÕÖ×ŲŁŚŪÜŻŽßąįāćäåęēčéźėģķīļšńņóōõö÷ųłśūüżž’")] },
  { name := "iso8859_14"
    aliases := ["iso_8859_14", "iso_8859_14_1998", "iso_celtic", "iso_ir_199", "l8", "latin8"]
    differing := [
      (0xA1, "Ḃḃ£ĊċḊ§Ẁ©ẂḋỲ\u00ad®ŸḞḟĠġṀṁ¶ṖẁṗẃṠỳẄẅṡ"), (0xD0, "Ŵ"), (0xD7, "Ṫ"), (0xDE, "Ŷ"),
      (0xF0, "ŵ"), (0xF7, "ṫ"), (0xFE, "ŷ")] },
  { name := "iso8859_15"
    aliases := ["iso_8859_15", "l9", "latin9"]
    differing := [
      (0xA4, "€¥Š§š"), (0xB4, "Žµ¶·ž¹º»ŒœŸ")] },
  { name := "iso8859_16"
    aliases := ["iso_8859_16", "iso_8859_16_2001", "iso_ir_226", "l10", "latin10"]
    differing := [
      (0xA1, "ĄąŁ€„Š§š©Ș«Ź\u00adźŻ°±ČłŽ”¶·žčș»ŒœŸżÀÁÂĂÄĆ"), (0xD0, "ĐŃÒÓÔŐÖŚŰ"), (0xDD, "ĘȚ"),
      (0xE3, "ăäć"), (0xF0, "đńòóôőöśű"), (0xFD, "ęț")] }]

end CodePage

end CompletionWire
