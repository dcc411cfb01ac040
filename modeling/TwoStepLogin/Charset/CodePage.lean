import TwoStepLogin.Charset.Code
import TwoStepLogin.Text.Chart

/-!
# Code pages

In a code page every character is one byte. The lower half is ASCII, the upper half differs.

* `CodePage` — the upper half;
* `CodePage.char?` — the character of a byte, none if the page has none there;
* `CodePage.code` — the charset of a page.
-/

set_option autoImplicit false

namespace TwoStepLogin.Charset

/-- The characters of the bytes from 0x80 on. -/
abbrev CodePage := Text.Chart

namespace CodePage

/-- The character of a byte; from 0x80 to 0x9F, controls stand for themselves where the page has no
other character. -/
def char? (page : CodePage) (b : Nat) : Option Char :=
  if b < 0x80 then some (Char.ofNat b)
  else (page.at? b).or (if b < 0xA0 then some (Char.ofNat b) else none)

/-- The charset of a page. -/
def code (page : CodePage) : Code := Code.ofSingle page.char?

/-- Cyrillic letters among frames. -/
def dosCyrillic : CodePage := [
  (0x80, "АБВГДЕЖЗИЙКЛМНОПРСТУФХЦЧШЩЪЫЬЭЮЯабвгдежз"),
  (0xA8, "ийклмноп░▒▓│┤╡╢╖╕╣║╗╝╜╛┐└┴┬├─┼╞╟╚╔╩╦╠═╬╧"),
  (0xD0, "╨╤╥╙╘╒╓╫╪┘┌█▄▌▐▀рстуфхцчшщъыьэюяЁёЄєЇїЎў"), (0xF8, "°∙·√№¤■\u00A0")]

/-- Latin letters of central Europe. -/
def latin2 : CodePage := [
  (0xA0, "\u00A0Ą\u02D8Ł¤ĽŚ§\u00A8ŠŞŤŹ\u00ADŽŻ°ą\u02DBł\u00B4ľśˇ\u00B8šşťź\u02DDžżŔÁÂĂÄĹĆÇ"),
  (0xC8, "ČÉĘËĚÍÎĎĐŃŇÓÔŐÖ×ŘŮÚŰÜÝŢßŕáâăäĺćçčéęëěíîď"), (0xF0, "đńňóôőö÷řůúűüýţ\u02D9")]

/-- Latin letters of southern Europe. -/
def latin3 : CodePage := [
  (0xA0, "\u00A0Ħ\u02D8£¤"), (0xA6, "Ĥ§\u00A8İŞĞĴ\u00AD"), (0xAF, "Ż°ħ²³\u00B4µĥ·\u00B8ışğĵ½"),
  (0xBF, "żÀÁÂ"), (0xC4, "ÄĊĈÇÈÉÊËÌÍÎÏ"), (0xD1, "ÑÒÓÔĠÖ×ĜÙÚÛÜŬŜßàáâ"), (0xE4, "äċĉçèéêëìíîï"),
  (0xF1, "ñòóôġö÷ĝùúûüŭŝ\u02D9")]

/-- Latin letters of northern Europe. -/
def latin4 : CodePage := [
  (0xA0, "\u00A0ĄĸŖ¤ĨĻ§\u00A8ŠĒĢŦ\u00ADŽ\u00AF°ą\u02DBŗ\u00B4ĩļˇ\u00B8šēģŧŊžŋĀÁÂÃÄÅÆĮ"),
  (0xC8, "ČÉĘËĖÍÎĪĐŅŌĶÔÕÖ×ØŲÚÛÜŨŪßāáâãäåæįčéęëėíîī"), (0xF0, "đņōķôõö÷øųúûüũū\u02D9")]

/-- Cyrillic letters. -/
def isoCyrillic : CodePage := [
  (0xA0, "\u00A0ЁЂЃЄЅІЇЈЉЊЋЌ\u00ADЎЏАБВГДЕЖЗИЙКЛМНОПРСТУФХЦЧ"),
  (0xC8, "ШЩЪЫЬЭЮЯабвгдежзийклмнопрстуфхцчшщъыьэюя"), (0xF0, "№ёђѓєѕіїјљњћќ§ўџ")]

/-- Arabic letters. -/
def isoArabic : CodePage := [
  (0xA0, "\u00A0"), (0xA4, "¤"), (0xAC, "،\u00AD"), (0xBB, "\u061B"), (0xBF, "\u061F"),
  (0xC1, "\u0621\u0622\u0623\u0624\u0625\u0626\u0627\u0628\u0629\u062A\u062B\u062C\u062D"),
  (0xCE, "\u062E\u062F\u0630\u0631\u0632\u0633\u0634\u0635\u0636\u0637\u0638\u0639\u063A"),
  (0xE0, "\u0640\u0641\u0642\u0643\u0644\u0645\u0646\u0647\u0648\u0649\u064A\u064B\u064C"),
  (0xED, "\u064D\u064E\u064F\u0650\u0651\u0652")]

/-- Greek letters. -/
def isoGreek : CodePage := [
  (0xA0, "\u00A0‘’£€₯¦§\u00A8\u00A9ͺ«¬\u00AD"),
  (0xAF, "―°±²³\u0384\u0385Ά·ΈΉΊ»Ό½ΎΏΐΑΒΓΔΕΖΗΘΙΚΛΜΝΞΟΠΡ"),
  (0xD3, "ΣΤΥΦΧΨΩΪΫάέήίΰαβγδεζηθικλμνξοπρςστυφχψωϊ"), (0xFB, "ϋόύώ")]

/-- Hebrew letters. -/
def isoHebrew : CodePage := [
  (0xA0, "\u00A0"), (0xA2, "¢£¤¥¦§\u00A8\u00A9×«¬\u00AD\u00AE\u00AF°±²³\u00B4µ¶·\u00B8¹÷»¼½¾"),
  (0xDF, "‗\u05D0\u05D1\u05D2\u05D3\u05D4\u05D5\u05D6\u05D7\u05D8\u05D9\u05DA\u05DB\u05DC"),
  (0xED, "\u05DD\u05DE\u05DF\u05E0\u05E1\u05E2\u05E3\u05E4\u05E5\u05E6\u05E7\u05E8\u05E9"),
  (0xFA, "\u05EA"), (0xFD, "\u200E\u200F")]

/-- Latin letters of the Nordic languages. -/
def latin6 : CodePage := [
  (0xA0, "\u00A0ĄĒĢĪĨĶ§ĻĐŠŦŽ\u00ADŪŊ°ąēģīĩķ·ļđšŧž―ūŋĀÁÂÃÄÅÆĮ"),
  (0xC8, "ČÉĘËĖÍÎÏÐŅŌÓÔÕÖŨØŲÚÛÜÝÞßāáâãäåæįčéęëėíîï"), (0xF0, "ðņōóôõöũøųúûüýþĸ")]

/-- Latin letters of the Baltic languages. -/
def latin7 : CodePage := [
  (0xA0, "\u00A0”¢£¤„¦§Ø\u00A9Ŗ«¬\u00AD\u00AEÆ°±²³“µ¶·ø¹ŗ»¼½¾æĄĮĀĆÄÅĘĒ"),
  (0xC8, "ČÉŹĖĢĶĪĻŠŃŅÓŌÕÖ×ŲŁŚŪÜŻŽßąįāćäåęēčéźėģķīļ"), (0xF0, "šńņóōõö÷ųłśūüżž’")]

/-- Latin letters of the Celtic languages. -/
def latin8 : CodePage := [
  (0xA0, "\u00A0Ḃḃ£ĊċḊ§Ẁ\u00A9ẂḋỲ\u00AD\u00AEŸḞḟĠġṀṁ¶ṖẁṗẃṠỳẄẅṡÀÁÂÃÄÅÆÇ"),
  (0xC8, "ÈÉÊËÌÍÎÏŴÑÒÓÔÕÖṪØÙÚÛÜÝŶßàáâãäåæçèéêëìíîï"), (0xF0, "ŵñòóôõöṫøùúûüýŷÿ")]

/-- Latin letters of western Europe, with the sign of the euro. -/
def latin9 : CodePage := [
  (0xA0, "\u00A0¡¢£€¥Š§š\u00A9ª«¬\u00AD\u00AE\u00AF°±²³Žµ¶·ž¹º»ŒœŸ¿ÀÁÂÃÄÅÆÇ"),
  (0xC8, "ÈÉÊËÌÍÎÏÐÑÒÓÔÕÖ×ØÙÚÛÜÝÞßàáâãäåæçèéêëìíîï"), (0xF0, "ðñòóôõö÷øùúûüýþÿ")]

/-- Latin letters of south-eastern Europe. -/
def latin10 : CodePage := [
  (0xA0, "\u00A0ĄąŁ€„Š§š\u00A9Ș«Ź\u00ADźŻ°±ČłŽ”¶·žčș»ŒœŸżÀÁÂĂÄĆÆÇ"),
  (0xC8, "ÈÉÊËÌÍÎÏĐŃÒÓÔŐÖŚŰÙÚÛÜĘȚßàáâăäćæçèéêëìíîï"), (0xF0, "đńòóôőöśűùúûüęțÿ")]

/-- Russian letters in the order of their Latin sounds. -/
def koiRussian : CodePage := [
  (0x80, "─│┌┐└┘├┤┬┴┼▀▄█▌▐░▒▓⌠■∙√≈≤≥\u00A0⌡°²·÷═║╒ё╓╔╕╖"),
  (0xA8, "╗╘╙╚╛╜╝╞╟╠╡Ё╢╣╤╥╦╧╨╩╪╫╬\u00A9юабцдефгхийклмно"),
  (0xD0, "пярстужвьызшэщчъЮАБЦДЕФГХИЙКЛМНОПЯРСТУЖВ"), (0xF8, "ЬЫЗШЭЩЧЪ")]

/-- Russian and Ukrainian letters in the order of their Latin sounds. -/
def koiUkrainian : CodePage := [
  (0x80, "─│┌┐└┘├┤┬┴┼▀▄█▌▐░▒▓⌠■∙√≈≤≥\u00A0⌡°²·÷═║╒ёє╔ії"),
  (0xA8, "╗╘╙╚╛ґў╞╟╠╡ЁЄ╣ІЇ╦╧╨╩╪ҐЎ\u00A9юабцдефгхийклмно"),
  (0xD0, "пярстужвьызшэщчъЮАБЦДЕФГХИЙКЛМНОПЯРСТУЖВ"), (0xF8, "ЬЫЗШЭЩЧЪ")]

/-- Latin letters and mathematical signs. -/
def roman : CodePage := [
  (0x80, "ÄÅÇÉÑÖÜáàâäãåçéèêëíìîïñóòôöõúùûü†°¢£§•¶ß"),
  (0xA8, "\u00AE\u00A9™\u00B4\u00A8≠ÆØ∞±≤≥¥µ∂∑∏π∫ªºΩæø¿¡¬√ƒ≈∆«»…\u00A0ÀÃÕŒœ"),
  (0xD0, "–—“”‘’÷◊ÿŸ⁄€‹›ﬁﬂ‡·‚„‰ÂÊÁËÈÍÎÏÌÓÔ\uF8FFÒÚÛÙıˆ\u02DC"),
  (0xF8, "\u00AF\u02D8\u02D9\u02DA\u00B8\u02DD\u02DBˇ")]

/-- Thai letters. -/
def thai : CodePage := [
  (0x80, "€"), (0x85, "…"), (0x91, "‘’“”•–—"),
  (0xA0, "\u00A0กขฃคฅฆงจฉชซฌญฎฏฐฑฒณดตถทธนบปผฝพฟภมยรฤลฦว"),
  (0xC8, "ศษสหฬอฮฯะ\u0E31าำ\u0E34\u0E35\u0E36\u0E37\u0E38\u0E39\u0E3A"),
  (0xDF, "฿เแโใไๅๆ\u0E47\u0E48\u0E49\u0E4A\u0E4B\u0E4C\u0E4D\u0E4E๏๐๑๒๓๔๕๖๗๘๙๚๛")]

/-- Latin letters of central Europe, with marks of punctuation. -/
def centralEuropean : CodePage := [
  (0x80, "€"), (0x82, "‚"), (0x84, "„…†‡"), (0x89, "‰Š‹ŚŤŽŹ"), (0x91, "‘’“”•–—"),
  (0x99, "™š›śťžź\u00A0ˇ\u02D8Ł¤Ą¦§\u00A8\u00A9Ş«¬\u00AD\u00AEŻ°±\u02DBł\u00B4µ¶·\u00B8ąş»Ľ"),
  (0xBD, "\u02DDľżŔÁÂĂÄĹĆÇČÉĘËĚÍÎĎĐŃŇÓÔŐÖ×ŘŮÚŰÜÝŢßŕáâăä"),
  (0xE5, "ĺćçčéęëěíîďđńňóôőö÷řůúűüýţ\u02D9")]

/-- Cyrillic letters, with marks of punctuation. -/
def cyrillic : CodePage := [
  (0x80, "ЂЃ‚ѓ„…†‡€‰Љ‹ЊЌЋЏђ‘’“”•–—"),
  (0x99, "™љ›њќћџ\u00A0ЎўЈ¤Ґ¦§Ё\u00A9Є«¬\u00AD\u00AEЇ°±Ііґµ¶·ё№є»јЅѕїА"),
  (0xC1, "БВГДЕЖЗИЙКЛМНОПРСТУФХЦЧШЩЪЫЬЭЮЯабвгдежзи"), (0xE9, "йклмнопрстуфхцчшщъыьэюя")]

/-- Latin letters of western Europe, with marks of punctuation. -/
def western : CodePage := [
  (0x80, "€"), (0x82, "‚ƒ„…†‡ˆ‰Š‹Œ"), (0x8E, "Ž"), (0x91, "‘’“”•–—\u02DC™š›œ"),
  (0x9E, "žŸ\u00A0¡¢£¤¥¦§\u00A8\u00A9ª«¬\u00AD\u00AE\u00AF°±²³\u00B4µ¶·\u00B8¹º»¼½¾¿ÀÁÂÃÄÅ"),
  (0xC6, "ÆÇÈÉÊËÌÍÎÏÐÑÒÓÔÕÖ×ØÙÚÛÜÝÞßàáâãäåæçèéêëìí"), (0xEE, "îïðñòóôõö÷øùúûüýþÿ")]

/-- Greek letters, with marks of punctuation. -/
def greek : CodePage := [
  (0x80, "€"), (0x82, "‚ƒ„…†‡"), (0x89, "‰"), (0x8B, "‹"), (0x91, "‘’“”•–—"), (0x99, "™"),
  (0x9B, "›"), (0xA0, "\u00A0\u0385Ά£¤¥¦§\u00A8\u00A9"),
  (0xAB, "«¬\u00AD\u00AE―°±²³\u0384µ¶·ΈΉΊ»Ό½ΎΏΐΑΒΓΔΕΖΗΘΙΚΛΜΝΞΟΠΡ"),
  (0xD3, "ΣΤΥΦΧΨΩΪΫάέήίΰαβγδεζηθικλμνξοπρςστυφχψωϊ"), (0xFB, "ϋόύώ")]

/-- Latin letters of western Europe and of Turkish. -/
def turkish : CodePage := [
  (0x80, "€"), (0x82, "‚ƒ„…†‡ˆ‰Š‹Œ"), (0x91, "‘’“”•–—\u02DC™š›œ"),
  (0x9F, "Ÿ\u00A0¡¢£¤¥¦§\u00A8\u00A9ª«¬\u00AD\u00AE\u00AF°±²³\u00B4µ¶·\u00B8¹º»¼½¾¿ÀÁÂÃÄÅÆ"),
  (0xC7, "ÇÈÉÊËÌÍÎÏĞÑÒÓÔÕÖ×ØÙÚÛÜİŞßàáâãäåæçèéêëìíî"), (0xEF, "ïğñòóôõö÷øùúûüışÿ")]

/-- Hebrew letters and points. -/
def hebrew : CodePage := [
  (0x80, "€"), (0x82, "‚ƒ„…†‡ˆ‰"), (0x8B, "‹"), (0x91, "‘’“”•–—\u02DC™"), (0x9B, "›"),
  (0xA0, "\u00A0¡¢£₪¥¦§\u00A8\u00A9×«¬\u00AD\u00AE\u00AF°±²³\u00B4µ¶·\u00B8¹÷»¼½¾¿\u05B0"),
  (0xC1, "\u05B1\u05B2\u05B3\u05B4\u05B5\u05B6\u05B7\u05B8\u05B9\u05BA\u05BB\u05BC\u05BD"),
  (0xCE, "\u05BE\u05BF\u05C0\u05C1\u05C2\u05C3\u05F0\u05F1\u05F2\u05F3\u05F4"),
  (0xE0, "\u05D0\u05D1\u05D2\u05D3\u05D4\u05D5\u05D6\u05D7\u05D8\u05D9\u05DA\u05DB\u05DC"),
  (0xED, "\u05DD\u05DE\u05DF\u05E0\u05E1\u05E2\u05E3\u05E4\u05E5\u05E6\u05E7\u05E8\u05E9"),
  (0xFA, "\u05EA"), (0xFD, "\u200E\u200F")]

/-- Arabic and French letters. -/
def arabic : CodePage := [
  (0x80, "€\u067E‚ƒ„…†‡ˆ‰\u0679‹Œ\u0686\u0698\u0688\u06AF‘’“”•–—\u06A9™\u0691›œ\u200C\u200D"),
  (0x9F, "\u06BA\u00A0،¢£¤¥¦§\u00A8\u00A9\u06BE«¬\u00AD\u00AE\u00AF°±²³\u00B4µ¶·\u00B8¹\u061B"),
  (0xBB, "»¼½¾\u061F\u06C1\u0621\u0622\u0623\u0624\u0625\u0626\u0627\u0628\u0629\u062A\u062B"),
  (0xCC, "\u062C\u062D\u062E\u062F\u0630\u0631\u0632\u0633\u0634\u0635\u0636×\u0637\u0638"),
  (0xDA, "\u0639\u063A\u0640\u0641\u0642\u0643à\u0644â\u0645\u0646\u0647\u0648çèéêë\u0649"),
  (0xED, "\u064Aîï\u064B\u064C\u064D\u064Eô\u064F\u0650÷\u0651ù\u0652ûü\u200E\u200F\u06D2")]

/-- Latin letters of the Baltic languages, with marks of punctuation. -/
def baltic : CodePage := [
  (0x80, "€"), (0x82, "‚"), (0x84, "„…†‡"), (0x89, "‰"), (0x8B, "‹"), (0x8D, "\u00A8ˇ\u00B8"),
  (0x91, "‘’“”•–—"), (0x99, "™"), (0x9B, "›"), (0x9D, "\u00AF\u02DB"), (0xA0, "\u00A0"),
  (0xA2, "¢£¤"), (0xA6, "¦§Ø\u00A9Ŗ«¬\u00AD\u00AEÆ°±²³\u00B4µ¶·ø¹ŗ»¼½¾æĄĮĀĆÄÅĘĒČÉŹĖĢĶ"),
  (0xCE, "ĪĻŠŃŅÓŌÕÖ×ŲŁŚŪÜŻŽßąįāćäåęēčéźėģķīļšńņóōõ"), (0xF6, "ö÷ųłśūüżž\u02D9")]

/-- Latin letters and marks of Vietnamese. -/
def vietnamese : CodePage := [
  (0x80, "€"), (0x82, "‚ƒ„…†‡ˆ‰"), (0x8B, "‹Œ"), (0x91, "‘’“”•–—\u02DC™"), (0x9B, "›œ"),
  (0x9F, "Ÿ\u00A0¡¢£¤¥¦§\u00A8\u00A9ª«¬\u00AD\u00AE\u00AF°±²³\u00B4µ¶·\u00B8¹º»¼½¾¿ÀÁÂĂÄÅÆ"),
  (0xC7, "ÇÈÉÊË\u0300ÍÎÏĐÑ\u0309ÓÔƠÖ×ØÙÚÛÜƯ\u0303ßàáâăäåæçèéêë\u0301íî"),
  (0xEF, "ïđñ\u0323óôơö÷øùúûüư₫ÿ")]

/-- Cyrillic letters and mathematical signs. -/
def cyrillicAndMathematical : CodePage := [
  (0x80, "АБВГДЕЖЗИЙКЛМНОПРСТУФХЦЧШЩЪЫЬЭЮЯ†°Ґ£§•¶І"),
  (0xA8, "\u00AE\u00A9™Ђђ≠Ѓѓ∞±≤≥іµґЈЄєЇїЉљЊњјЅ¬√ƒ≈∆«»…\u00A0ЋћЌќѕ"),
  (0xD0, "–—“”‘’÷„ЎўЏџ№Ёёяабвгдежзийклмнопрстуфхцч"), (0xF8, "шщъыьэю€")]

end CodePage

end TwoStepLogin.Charset
