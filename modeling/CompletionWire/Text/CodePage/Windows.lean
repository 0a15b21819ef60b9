import CompletionWire.Text.CodePage

/-!
# Windows pages

Pages for Windows, which fill the places that ISO pages leave to control characters.
-/

namespace CompletionWire

namespace CodePage

def windowsPages : List CodePage := [
  { name := "cp1250"
    aliases := ["1250", "windows_1250"]
    differing := [
      (0x80, "€�‚�„…†‡�‰Š‹ŚŤŽŹ�‘’“”•–—�™š›śťžź\u00a0ˇ˘Ł¤Ą"), (0xAA, "Ş"), (0xAF, "Ż°±˛ł"),
      (0xB9, "ąş»Ľ˝ľżŔÁÂĂÄĹĆÇČÉĘËĚÍÎĎĐŃŇÓÔŐÖ×ŘŮÚŰÜÝŢßŕáâăäĺćçčéęëěíîďđńňóôőö÷řůúűüýţ˙")] },
  { name := "cp1251"
    aliases := ["1251", "windows_1251"]
    differing := [
      (0x80, "ЂЃ‚ѓ„…†‡€‰Љ‹ЊЌЋЏђ‘’“”•–—�™љ›њќћџ\u00a0ЎўЈ¤Ґ¦§Ё©Є"),
      (0xAF, "Ї°±Ііґµ¶·ё№є»јЅѕї"),
      (0xC0, "АБВГДЕЖЗИЙКЛМНОПРСТУФХЦЧШЩЪЫЬЭЮЯабвгдежзийклмнопрстуфхцчшщъыьэюя")] },
  { name := "cp1252"
    aliases := ["1252", "windows_1252"]
    differing := [
      (0x80, "€�‚ƒ„…†‡ˆ‰Š‹Œ�Ž��‘’“”•–—˜™š›œ�žŸ")] },
  { name := "cp1253"
    aliases := ["1253", "windows_1253"]
    differing := [
      (0x80, "€�‚ƒ„…†‡�‰�‹�����‘’“”•–—�™�›����\u00a0΅Ά"), (0xAA, "�"), (0xAF, "―"),
      (0xB4, "΄µ¶·ΈΉΊ»Ό½ΎΏΐΑΒΓΔΕΖΗΘΙΚΛΜΝΞΟΠΡ�ΣΤΥΦΧΨΩΪΫάέήίΰαβγδεζηθικλμνξοπρςστυφχψωϊϋόύώ�")] },
  { name := "cp1254"
    aliases := ["1254", "windows_1254"]
    differing := [
      (0x80, "€�‚ƒ„…†‡ˆ‰Š‹Œ����‘’“”•–—˜™š›œ��Ÿ"), (0xD0, "Ğ"), (0xDD, "İŞ"), (0xF0, "ğ"),
      (0xFD, "ış")] },
  { name := "cp1255"
    aliases := ["1255", "windows_1255"]
    differing := [
      (0x80, "€�‚ƒ„…†‡ˆ‰�‹�����‘’“”•–—˜™�›����"), (0xA4, "₪"), (0xAA, "×"), (0xBA, "÷"),
      (0xC0, "\u05b0\u05b1\u05b2\u05b3\u05b4\u05b5\u05b6\u05b7\u05b8\u05b9�\u05bb\u05bc\u05bd"),
      (0xCE, "\u05be\u05bf\u05c0\u05c1\u05c2\u05c3\u05f0\u05f1\u05f2\u05f3\u05f4�������\u05d0"),
      (0xE1, "\u05d1\u05d2\u05d3\u05d4\u05d5\u05d6\u05d7\u05d8\u05d9\u05da\u05db\u05dc\u05dd"),
      (0xEE, "\u05de\u05df\u05e0\u05e1\u05e2\u05e3\u05e4\u05e5\u05e6\u05e7\u05e8\u05e9\u05ea��"),
      (0xFD, "\u200e\u200f�")] },
  { name := "cp1256"
    aliases := ["1256", "windows_1256"]
    differing := [
      (0x80, "€\u067e‚ƒ„…†‡ˆ‰\u0679‹Œ\u0686\u0698\u0688\u06af‘’“”•–—\u06a9™\u0691›œ\u200c\u200d"),
      (0x9F, "\u06ba\u00a0،"), (0xAA, "\u06be"), (0xBA, "\u061b"),
      (0xBF, "\u061f\u06c1\u0621\u0622\u0623\u0624\u0625\u0626\u0627\u0628\u0629\u062a\u062b"),
      (0xCC, "\u062c\u062d\u062e\u062f\u0630\u0631\u0632\u0633\u0634\u0635\u0636×\u0637\u0638"),
      (0xDA, "\u0639\u063a\u0640\u0641\u0642\u0643à\u0644â\u0645\u0646\u0647\u0648"),
      (0xEC, "\u0649\u064aîï\u064b\u064c\u064d\u064eô\u064f\u0650÷\u0651ù\u0652ûü\u200e\u200f"),
      (0xFF, "\u06d2")] },
  { name := "cp1257"
    aliases := ["1257", "windows_1257"]
    differing := [
      (0x80, "€�‚�„…†‡�‰�‹�¨ˇ¸�‘’“”•–—�™�›�¯˛�\u00a0�¢£¤�¦§Ø©Ŗ"), (0xAF, "Æ"), (0xB8, "ø¹ŗ"),
      (0xBF, "æĄĮĀĆÄÅĘĒČÉŹĖĢĶĪĻŠŃŅÓŌÕÖ×ŲŁŚŪÜŻŽßąįāćäåęēčéźėģķīļšńņóōõö÷ųłśūüżž˙")] },
  { name := "cp1258"
    aliases := ["1258", "windows_1258"]
    differing := [
      (0x80, "€�‚ƒ„…†‡ˆ‰�‹Œ����‘’“”•–—˜™�›œ��Ÿ"), (0xC3, "Ă"), (0xCC, "\u0300ÍÎÏĐÑ\u0309ÓÔƠ"),
      (0xDD, "Ư\u0303"), (0xE3, "ă"), (0xEC, "\u0301íîïđñ\u0323óôơ"), (0xFD, "ư₫")] },
  { name := "cp874"
    differing := [
      (0x80, "€����…�����������‘’“”•–—��������\u00a0กขฃคฅฆงจฉชซฌญฎฏฐฑฒณดตถทธนบปผฝพฟภมยรฤลฦวศษสหฬ"),
      (0xCD, "อฮฯะ\u0e31าำ\u0e34\u0e35\u0e36\u0e37\u0e38\u0e39\u0e3a����฿เแโใไๅๆ\u0e47\u0e48"),
      (0xE9, "\u0e49\u0e4a\u0e4b\u0e4c\u0e4d\u0e4e๏๐๑๒๓๔๕๖๗๘๙๚๛����")] }]

end CodePage

end CompletionWire
