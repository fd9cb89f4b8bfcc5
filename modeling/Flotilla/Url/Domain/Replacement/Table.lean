/-!
# Replacement Tables

What becomes of a character of a domain name. The rules that read the tables are in
`Flotilla.Url.Domain.Replacement`.
-/

namespace Flotilla.Url.Domain

/-- The characters `first, first + stride, …, last`, and the texts that replace them, with blanks
between these. -/
structure ReplacementRun where
  first : Nat
  last : Nat
  stride : Nat
  texts : String

/-- The characters outside ASCII that are replaced, in rising order. -/
def replacementRuns : List ReplacementRun := [
  ⟨170, 170, 1, "a"⟩, ⟨178, 179, 1, "2 3"⟩, ⟨181, 181, 1, "μ"⟩, ⟨185, 186, 1, "1 o"⟩,
  ⟨188, 190, 1, "1⁄4 1⁄2 3⁄4"⟩, ⟨192, 214, 1, "à á â ã ä å æ ç è é ê ë ì í î ï ð ñ ò ó ô õ ö"⟩,
  ⟨216, 222, 1, "ø ù ú û ü ý þ"⟩,
  ⟨256, 306, 2, "ā ă ą ć ĉ ċ č ď đ ē ĕ ė ę ě ĝ ğ ġ ģ ĥ ħ ĩ ī ĭ į i\u0307 ij"⟩,
  ⟨307, 308, 1, "ij ĵ"⟩, ⟨310, 310, 1, "ķ"⟩, ⟨313, 319, 2, "ĺ ļ ľ l·"⟩, ⟨320, 321, 1, "l· ł"⟩,
  ⟨323, 329, 2, "ń ņ ň ʼn"⟩, ⟨330, 376, 2, "ŋ ō ŏ ő œ ŕ ŗ ř ś ŝ ş š ţ ť ŧ ũ ū ŭ ů ű ų ŵ ŷ ÿ"⟩,
  ⟨377, 385, 2, "ź ż ž s ɓ"⟩, ⟨386, 390, 2, "ƃ ƅ ɔ"⟩, ⟨391, 393, 2, "ƈ ɖ"⟩, ⟨394, 395, 1, "ɗ ƌ"⟩,
  ⟨398, 401, 1, "ǝ ə ɛ ƒ"⟩, ⟨403, 404, 1, "ɠ ɣ"⟩, ⟨406, 408, 1, "ɩ ɨ ƙ"⟩, ⟨412, 413, 1, "ɯ ɲ"⟩,
  ⟨415, 416, 1, "ɵ ơ"⟩, ⟨418, 422, 2, "ƣ ƥ ʀ"⟩, ⟨423, 425, 2, "ƨ ʃ"⟩, ⟨428, 430, 2, "ƭ ʈ"⟩,
  ⟨431, 433, 2, "ư ʊ"⟩, ⟨434, 435, 1, "ʋ ƴ"⟩, ⟨437, 439, 2, "ƶ ʒ"⟩, ⟨440, 440, 1, "ƹ"⟩,
  ⟨444, 444, 1, "ƽ"⟩, ⟨452, 461, 1, "dž dž dž lj lj lj nj nj nj ǎ"⟩,
  ⟨463, 475, 2, "ǐ ǒ ǔ ǖ ǘ ǚ ǜ"⟩, ⟨478, 494, 2, "ǟ ǡ ǣ ǥ ǧ ǩ ǫ ǭ ǯ"⟩, ⟨497, 500, 1, "dz dz dz ǵ"⟩,
  ⟨502, 504, 1, "ƕ ƿ ǹ"⟩,
  ⟨506, 562, 2, "ǻ ǽ ǿ ȁ ȃ ȅ ȇ ȉ ȋ ȍ ȏ ȑ ȓ ȕ ȗ ș ț ȝ ȟ ƞ ȣ ȥ ȧ ȩ ȫ ȭ ȯ ȱ ȳ"⟩,
  ⟨570, 571, 1, "ⱥ ȼ"⟩, ⟨573, 574, 1, "ƚ ⱦ"⟩, ⟨577, 579, 2, "ɂ ƀ"⟩, ⟨580, 582, 1, "ʉ ʌ ɇ"⟩,
  ⟨584, 590, 2, "ɉ ɋ ɍ ɏ"⟩, ⟨688, 696, 1, "h ɦ j r ɹ ɻ ʁ w y"⟩, ⟨736, 740, 1, "ɣ l s x ʕ"⟩,
  ⟨832, 833, 1, "\u0300 \u0301"⟩, ⟨835, 837, 1, "\u0313 \u0308\u0301 ι"⟩,
  ⟨880, 886, 2, "ͱ ͳ ʹ ͷ"⟩, ⟨894, 895, 1, "; ϳ"⟩, ⟨902, 906, 1, "ά · έ ή ί"⟩,
  ⟨908, 910, 2, "ό ύ"⟩, ⟨911, 913, 2, "ώ α"⟩, ⟨914, 929, 1, "β γ δ ε ζ η θ ι κ λ μ ν ξ ο π ρ"⟩,
  ⟨931, 939, 1, "σ τ υ φ χ ψ ω ϊ ϋ"⟩, ⟨975, 982, 1, "ϗ β θ υ ύ ϋ φ π"⟩,
  ⟨984, 1008, 2, "ϙ ϛ ϝ ϟ ϡ ϣ ϥ ϧ ϩ ϫ ϭ ϯ κ"⟩, ⟨1009, 1010, 1, "ρ σ"⟩, ⟨1012, 1013, 1, "θ ε"⟩,
  ⟨1015, 1017, 2, "ϸ σ"⟩, ⟨1018, 1018, 1, "ϻ"⟩,
  ⟨1021, 1053, 1, "ͻ ͼ ͽ ѐ ё ђ ѓ є ѕ і ї ј љ њ ћ ќ ѝ ў џ а б в г д е ж з и й к л м н"⟩,
  ⟨1054, 1071, 1, "о п р с т у ф х ц ч ш щ ъ ы ь э ю я"⟩,
  ⟨1120, 1152, 2, "ѡ ѣ ѥ ѧ ѩ ѫ ѭ ѯ ѱ ѳ ѵ ѷ ѹ ѻ ѽ ѿ ҁ"⟩,
  ⟨1162, 1216, 2, "ҋ ҍ ҏ ґ ғ ҕ җ ҙ қ ҝ ҟ ҡ ң ҥ ҧ ҩ ҫ ҭ ү ұ ҳ ҵ ҷ ҹ һ ҽ ҿ ӏ"⟩,
  ⟨1217, 1229, 2, "ӂ ӄ ӆ ӈ ӊ ӌ ӎ"⟩,
  ⟨1232, 1296, 2, "ӑ ӓ ӕ ӗ ә ӛ ӝ ӟ ӡ ӣ ӥ ӧ ө ӫ ӭ ӯ ӱ ӳ ӵ ӷ ӹ ӻ ӽ ӿ ԁ ԃ ԅ ԇ ԉ ԋ ԍ ԏ ԑ"⟩,
  ⟨1298, 1326, 2, "ԓ ԕ ԗ ԙ ԛ ԝ ԟ ԡ ԣ ԥ ԧ ԩ ԫ ԭ ԯ"⟩,
  ⟨1329, 1361, 1, "ա բ գ դ ե զ է ը թ ժ ի լ խ ծ կ հ ձ ղ ճ մ յ ն շ ո չ պ ջ ռ ս վ տ ր ց"⟩,
  ⟨1362, 1366, 1, "ւ փ ք օ ֆ"⟩, ⟨1415, 1415, 1, "եւ"⟩,
  ⟨1653, 1656, 1, "\u0627\u0674 \u0648\u0674 \u06c7\u0674 \u064a\u0674"⟩,
  ⟨2392, 2399, 1, "क\u093c ख\u093c ग\u093c ज\u093c ड\u093c ढ\u093c फ\u093c य\u093c"⟩,
  ⟨2524, 2525, 1, "ড\u09bc ঢ\u09bc"⟩, ⟨2527, 2527, 1, "য\u09bc"⟩, ⟨2611, 2611, 1, "ਲ\u0a3c"⟩,
  ⟨2614, 2614, 1, "ਸ\u0a3c"⟩, ⟨2649, 2651, 1, "ਖ\u0a3c ਗ\u0a3c ਜ\u0a3c"⟩,
  ⟨2654, 2654, 1, "ਫ\u0a3c"⟩, ⟨2908, 2909, 1, "ଡ\u0b3c ଢ\u0b3c"⟩, ⟨3635, 3635, 1, "\u0e4dา"⟩,
  ⟨3763, 3763, 1, "\u0ecdາ"⟩, ⟨3804, 3805, 1, "ຫນ ຫມ"⟩, ⟨3852, 3852, 1, "་"⟩,
  ⟨3907, 3907, 1, "ག\u0fb7"⟩, ⟨3917, 3917, 1, "ཌ\u0fb7"⟩, ⟨3922, 3922, 1, "ད\u0fb7"⟩,
  ⟨3927, 3927, 1, "བ\u0fb7"⟩, ⟨3932, 3932, 1, "ཛ\u0fb7"⟩, ⟨3945, 3945, 1, "ཀ\u0fb5"⟩,
  ⟨3955, 3957, 2, "\u0f71\u0f72 \u0f71\u0f74"⟩,
  ⟨3958, 3961, 1, "\u0fb2\u0f80 \u0fb2\u0f71\u0f80 \u0fb3\u0f80 \u0fb3\u0f71\u0f80"⟩,
  ⟨3969, 3969, 1, "\u0f71\u0f80"⟩, ⟨3987, 3987, 1, "\u0f92\u0fb7"⟩,
  ⟨3997, 3997, 1, "\u0f9c\u0fb7"⟩, ⟨4002, 4002, 1, "\u0fa1\u0fb7"⟩,
  ⟨4007, 4007, 1, "\u0fa6\u0fb7"⟩, ⟨4012, 4012, 1, "\u0fab\u0fb7"⟩,
  ⟨4025, 4025, 1, "\u0f90\u0fb5"⟩,
  ⟨4256, 4288, 1, "ⴀ ⴁ ⴂ ⴃ ⴄ ⴅ ⴆ ⴇ ⴈ ⴉ ⴊ ⴋ ⴌ ⴍ ⴎ ⴏ ⴐ ⴑ ⴒ ⴓ ⴔ ⴕ ⴖ ⴗ ⴘ ⴙ ⴚ ⴛ ⴜ ⴝ ⴞ ⴟ ⴠ"⟩,
  ⟨4289, 4293, 1, "ⴡ ⴢ ⴣ ⴤ ⴥ"⟩, ⟨4295, 4295, 1, "ⴧ"⟩, ⟨4301, 4301, 1, "ⴭ"⟩, ⟨4348, 4348, 1, "ნ"⟩,
  ⟨5112, 5117, 1, "Ᏸ Ᏹ Ᏺ Ᏻ Ᏼ Ᏽ"⟩, ⟨7296, 7305, 1, "в д о с т т ъ ѣ ꙋ ᲊ"⟩,
  ⟨7312, 7344, 1, "ა ბ გ დ ე ვ ზ თ ი კ ლ მ ნ ო პ ჟ რ ს ტ უ ფ ქ ღ ყ შ ჩ ც ძ წ ჭ ხ ჯ ჰ"⟩,
  ⟨7345, 7354, 1, "ჱ ჲ ჳ ჴ ჵ ჶ ჷ ჸ ჹ ჺ"⟩, ⟨7357, 7359, 1, "ჽ ჾ ჿ"⟩, ⟨7468, 7470, 1, "a æ b"⟩,
  ⟨7472, 7482, 1, "d e ǝ g h i j k l m n"⟩,
  ⟨7484, 7501, 1, "o ȣ p r t u w a ɐ ɑ ᴂ b d e ə ɛ ɜ g"⟩,
  ⟨7503, 7530, 1, "k m ŋ o ɔ ᴖ ᴗ p t u ᴝ ɯ v ᴥ β γ δ φ χ i r u v β γ ρ φ χ"⟩,
  ⟨7544, 7544, 1, "н"⟩,
  ⟨7579, 7611, 1, "ɒ c ɕ ð ɜ f ɟ ɡ ɥ ɨ ɩ ɪ ᵻ ʝ ɭ ᶅ ʟ ɱ ɰ ɲ ɳ ɴ ɵ ɸ ʂ ʃ ƫ ʉ ʊ ᴜ ʋ ʌ z"⟩,
  ⟨7612, 7615, 1, "ʐ ʑ ʒ θ"⟩,
  ⟨7680, 7744, 2, "ḁ ḃ ḅ ḇ ḉ ḋ ḍ ḏ ḑ ḓ ḕ ḗ ḙ ḛ ḝ ḟ ḡ ḣ ḥ ḧ ḩ ḫ ḭ ḯ ḱ ḳ ḵ ḷ ḹ ḻ ḽ ḿ ṁ"⟩,
  ⟨7746, 7810, 2, "ṃ ṅ ṇ ṉ ṋ ṍ ṏ ṑ ṓ ṕ ṗ ṙ ṛ ṝ ṟ ṡ ṣ ṥ ṧ ṩ ṫ ṭ ṯ ṱ ṳ ṵ ṷ ṹ ṻ ṽ ṿ ẁ ẃ"⟩,
  ⟨7812, 7828, 2, "ẅ ẇ ẉ ẋ ẍ ẏ ẑ ẓ ẕ"⟩, ⟨7834, 7835, 1, "aʾ ṡ"⟩,
  ⟨7838, 7902, 2, "ß ạ ả ấ ầ ẩ ẫ ậ ắ ằ ẳ ẵ ặ ẹ ẻ ẽ ế ề ể ễ ệ ỉ ị ọ ỏ ố ồ ổ ỗ ộ ớ ờ ở"⟩,
  ⟨7904, 7934, 2, "ỡ ợ ụ ủ ứ ừ ử ữ ự ỳ ỵ ỷ ỹ ỻ ỽ ỿ"⟩, ⟨7944, 7951, 1, "ἀ ἁ ἂ ἃ ἄ ἅ ἆ ἇ"⟩,
  ⟨7960, 7965, 1, "ἐ ἑ ἒ ἓ ἔ ἕ"⟩, ⟨7976, 7983, 1, "ἠ ἡ ἢ ἣ ἤ ἥ ἦ ἧ"⟩,
  ⟨7992, 7999, 1, "ἰ ἱ ἲ ἳ ἴ ἵ ἶ ἷ"⟩, ⟨8008, 8013, 1, "ὀ ὁ ὂ ὃ ὄ ὅ"⟩, ⟨8025, 8031, 2, "ὑ ὓ ὕ ὗ"⟩,
  ⟨8040, 8047, 1, "ὠ ὡ ὢ ὣ ὤ ὥ ὦ ὧ"⟩, ⟨8049, 8061, 2, "ά έ ή ί ό ύ ώ"⟩,
  ⟨8064, 8085, 1, "ἀι ἁι ἂι ἃι ἄι ἅι ἆι ἇι ἀι ἁι ἂι ἃι ἄι ἅι ἆι ἇι ἠι ἡι ἢι ἣι ἤι ἥι"⟩,
  ⟨8086, 8107, 1, "ἦι ἧι ἠι ἡι ἢι ἣι ἤι ἥι ἦι ἧι ὠι ὡι ὢι ὣι ὤι ὥι ὦι ὧι ὠι ὡι ὢι ὣι"⟩,
  ⟨8108, 8111, 1, "ὤι ὥι ὦι ὧι"⟩, ⟨8114, 8116, 1, "ὰι αι άι"⟩, ⟨8119, 8124, 1, "ᾶι ᾰ ᾱ ὰ ά αι"⟩,
  ⟨8126, 8126, 1, "ι"⟩, ⟨8130, 8132, 1, "ὴι ηι ήι"⟩, ⟨8135, 8140, 1, "ῆι ὲ έ ὴ ή ηι"⟩,
  ⟨8147, 8147, 1, "ΐ"⟩, ⟨8152, 8155, 1, "ῐ ῑ ὶ ί"⟩, ⟨8163, 8163, 1, "ΰ"⟩,
  ⟨8168, 8172, 1, "ῠ ῡ ὺ ύ ῥ"⟩, ⟨8175, 8175, 1, "`"⟩, ⟨8178, 8180, 1, "ὼι ωι ώι"⟩,
  ⟨8183, 8188, 1, "ῶι ὸ ό ὼ ώ ωι"⟩, ⟨8209, 8209, 1, "‐"⟩, ⟨8243, 8244, 1, "′′ ′′′"⟩,
  ⟨8246, 8247, 1, "‵‵ ‵‵‵"⟩, ⟨8252, 8252, 1, "!!"⟩, ⟨8263, 8265, 1, "?? ?! !?"⟩,
  ⟨8279, 8279, 1, "′′′′"⟩, ⟨8304, 8305, 1, "0 i"⟩,
  ⟨8308, 8334, 1, "4 5 6 7 8 9 + − = ( ) n 0 1 2 3 4 5 6 7 8 9 + − = ( )"⟩,
  ⟨8336, 8348, 1, "a e o x ə h k l m n p s t"⟩, ⟨8360, 8360, 1, "rs"⟩,
  ⟨8448, 8451, 1, "a/c a/s c °c"⟩, ⟨8453, 8455, 1, "c/o c/u ɛ"⟩,
  ⟨8457, 8467, 1, "°f g h h h h ħ i i l l"⟩, ⟨8469, 8470, 1, "n no"⟩,
  ⟨8473, 8477, 1, "p q r r r"⟩, ⟨8480, 8482, 1, "sm tel tm"⟩, ⟨8484, 8490, 2, "z ω z k"⟩,
  ⟨8491, 8493, 1, "å b c"⟩, ⟨8495, 8505, 1, "e e f ⅎ m o \u05d0 \u05d1 \u05d2 \u05d3 i"⟩,
  ⟨8507, 8512, 1, "fax π γ γ π ∑"⟩, ⟨8517, 8521, 1, "d d e i j"⟩,
  ⟨8528, 8544, 1, "1⁄7 1⁄9 1⁄10 1⁄3 2⁄3 1⁄5 2⁄5 3⁄5 4⁄5 1⁄6 5⁄6 1⁄8 3⁄8 5⁄8 7⁄8 1⁄ i"⟩,
  ⟨8545, 8566, 1, "ii iii iv v vi vii viii ix x xi xii l c d m i ii iii iv v vi vii"⟩,
  ⟨8567, 8575, 1, "viii ix x xi xii l c d m"⟩, ⟨8579, 8579, 1, "ↄ"⟩, ⟨8585, 8585, 1, "0⁄3"⟩,
  ⟨8748, 8749, 1, "∫∫ ∫∫∫"⟩, ⟨8751, 8752, 1, "∮∮ ∮∮∮"⟩, ⟨9001, 9002, 1, "〈 〉"⟩,
  ⟨9312, 9334, 1, "1 2 3 4 5 6 7 8 9 10 11 12 13 14 15 16 17 18 19 20 (1) (2) (3)"⟩,
  ⟨9335, 9348, 1, "(4) (5) (6) (7) (8) (9) (10) (11) (12) (13) (14) (15) (16) (17)"⟩,
  ⟨9349, 9351, 1, "(18) (19) (20)"⟩,
  ⟨9372, 9387, 1, "(a) (b) (c) (d) (e) (f) (g) (h) (i) (j) (k) (l) (m) (n) (o) (p)"⟩,
  ⟨9388, 9410, 1, "(q) (r) (s) (t) (u) (v) (w) (x) (y) (z) a b c d e f g h i j k l m"⟩,
  ⟨9411, 9443, 1, "n o p q r s t u v w x y z a b c d e f g h i j k l m n o p q r s t"⟩,
  ⟨9444, 9450, 1, "u v w x y z 0"⟩, ⟨10764, 10764, 1, "∫∫∫∫"⟩, ⟨10868, 10870, 1, "::= == ==="⟩,
  ⟨10972, 10972, 1, "⫝\u0338"⟩,
  ⟨11264, 11296, 1, "ⰰ ⰱ ⰲ ⰳ ⰴ ⰵ ⰶ ⰷ ⰸ ⰹ ⰺ ⰻ ⰼ ⰽ ⰾ ⰿ ⱀ ⱁ ⱂ ⱃ ⱄ ⱅ ⱆ ⱇ ⱈ ⱉ ⱊ ⱋ ⱌ ⱍ ⱎ ⱏ ⱐ"⟩,
  ⟨11297, 11311, 1, "ⱑ ⱒ ⱓ ⱔ ⱕ ⱖ ⱗ ⱘ ⱙ ⱚ ⱛ ⱜ ⱝ ⱞ ⱟ"⟩, ⟨11360, 11362, 2, "ⱡ ɫ"⟩,
  ⟨11363, 11364, 1, "ᵽ ɽ"⟩, ⟨11367, 11373, 2, "ⱨ ⱪ ⱬ ɑ"⟩, ⟨11374, 11376, 1, "ɱ ɐ ɒ"⟩,
  ⟨11378, 11378, 1, "ⱳ"⟩, ⟨11381, 11381, 1, "ⱶ"⟩, ⟨11388, 11392, 1, "j v ȿ ɀ ⲁ"⟩,
  ⟨11394, 11458, 2, "ⲃ ⲅ ⲇ ⲉ ⲋ ⲍ ⲏ ⲑ ⲓ ⲕ ⲗ ⲙ ⲛ ⲝ ⲟ ⲡ ⲣ ⲥ ⲧ ⲩ ⲫ ⲭ ⲯ ⲱ ⲳ ⲵ ⲷ ⲹ ⲻ ⲽ ⲿ ⳁ ⳃ"⟩,
  ⟨11460, 11490, 2, "ⳅ ⳇ ⳉ ⳋ ⳍ ⳏ ⳑ ⳓ ⳕ ⳗ ⳙ ⳛ ⳝ ⳟ ⳡ ⳣ"⟩, ⟨11499, 11501, 2, "ⳬ ⳮ"⟩,
  ⟨11506, 11506, 1, "ⳳ"⟩, ⟨11631, 11631, 1, "ⵡ"⟩, ⟨11935, 11935, 1, "母"⟩, ⟨12019, 12019, 1, "龟"⟩,
  ⟨12032, 12064, 1, "一 丨 丶 丿 乙 亅 二 亠 人 儿 入 八 冂 冖 冫 几 凵 刀 力 勹 匕 匚 匸 十 卜 卩 厂 厶 又 口 囗 土 士"⟩,
  ⟨12065, 12097, 1, "夂 夊 夕 大 女 子 宀 寸 小 尢 尸 屮 山 巛 工 己 巾 干 幺 广 廴 廾 弋 弓 彐 彡 彳 心 戈 戶 手 支 攴"⟩,
  ⟨12098, 12130, 1, "文 斗 斤 方 无 日 曰 月 木 欠 止 歹 殳 毋 比 毛 氏 气 水 火 爪 父 爻 爿 片 牙 牛 犬 玄 玉 瓜 瓦 甘"⟩,
  ⟨12131, 12163, 1, "生 用 田 疋 疒 癶 白 皮 皿 目 矛 矢 石 示 禸 禾 穴 立 竹 米 糸 缶 网 羊 羽 老 而 耒 耳 聿 肉 臣 自"⟩,
  ⟨12164, 12196, 1, "至 臼 舌 舛 舟 艮 色 艸 虍 虫 血 行 衣 襾 見 角 言 谷 豆 豕 豸 貝 赤 走 足 身 車 辛 辰 辵 邑 酉 釆"⟩,
  ⟨12197, 12229, 1, "里 金 長 門 阜 隶 隹 雨 靑 非 面 革 韋 韭 音 頁 風 飛 食 首 香 馬 骨 高 髟 鬥 鬯 鬲 鬼 魚 鳥 鹵 鹿"⟩,
  ⟨12230, 12245, 1, "麥 麻 黃 黍 黑 黹 黽 鼎 鼓 鼠 鼻 齊 齒 龍 龜 龠"⟩, ⟨12290, 12290, 1, "."⟩,
  ⟨12342, 12344, 2, "〒 十"⟩, ⟨12345, 12346, 1, "卄 卅"⟩, ⟨12447, 12447, 1, "より"⟩,
  ⟨12543, 12543, 1, "コト"⟩,
  ⟨12593, 12625, 1, "ᄀ ᄁ ᆪ ᄂ ᆬ ᆭ ᄃ ᄄ ᄅ ᆰ ᆱ ᆲ ᆳ ᆴ ᆵ ᄚ ᄆ ᄇ ᄈ ᄡ ᄉ ᄊ ᄋ ᄌ ᄍ ᄎ ᄏ ᄐ ᄑ ᄒ ᅡ ᅢ ᅣ"⟩,
  ⟨12626, 12643, 1, "ᅤ ᅥ ᅦ ᅧ ᅨ ᅩ ᅪ ᅫ ᅬ ᅭ ᅮ ᅯ ᅰ ᅱ ᅲ ᅳ ᅴ ᅵ"⟩,
  ⟨12645, 12677, 1, "ᄔ ᄕ ᇇ ᇈ ᇌ ᇎ ᇓ ᇗ ᇙ ᄜ ᇝ ᇟ ᄝ ᄞ ᄠ ᄢ ᄣ ᄧ ᄩ ᄫ ᄬ ᄭ ᄮ ᄯ ᄲ ᄶ ᅀ ᅇ ᅌ ᇱ ᇲ ᅗ ᅘ"⟩,
  ⟨12678, 12686, 1, "ᅙ ᆄ ᆅ ᆈ ᆑ ᆒ ᆔ ᆞ ᆡ"⟩, ⟨12690, 12703, 1, "一 二 三 四 上 中 下 甲 乙 丙 丁 天 地 人"⟩,
  ⟨12800, 12815, 1, "(ᄀ) (ᄂ) (ᄃ) (ᄅ) (ᄆ) (ᄇ) (ᄉ) (ᄋ) (ᄌ) (ᄎ) (ᄏ) (ᄐ) (ᄑ) (ᄒ) (가) (나)"⟩,
  ⟨12816, 12830, 1, "(다) (라) (마) (바) (사) (아) (자) (차) (카) (타) (파) (하) (주) (오전) (오후)"⟩,
  ⟨12832, 12847, 1, "(一) (二) (三) (四) (五) (六) (七) (八) (九) (十) (月) (火) (水) (木) (金) (土)"⟩,
  ⟨12848, 12863, 1, "(日) (株) (有) (社) (名) (特) (財) (祝) (労) (代) (呼) (学) (監) (企) (資) (協)"⟩,
  ⟨12864, 12871, 1, "(祭) (休) (自) (至) 問 幼 文 箏"⟩,
  ⟨12880, 12903, 1, "pte 21 22 23 24 25 26 27 28 29 30 31 32 33 34 35 ᄀ ᄂ ᄃ ᄅ ᄆ ᄇ ᄉ ᄋ"⟩,
  ⟨12904, 12926, 1, "ᄌ ᄎ ᄏ ᄐ ᄑ ᄒ 가 나 다 라 마 바 사 아 자 차 카 타 파 하 참고 주의 우"⟩,
  ⟨12928, 12960, 1, "一 二 三 四 五 六 七 八 九 十 月 火 水 木 金 土 日 株 有 社 名 特 財 祝 労 秘 男 女 適 優 印 注 項"⟩,
  ⟨12961, 12987, 1, "休 写 正 上 中 下 左 右 医 宗 学 監 企 資 協 夜 36 37 38 39 40 41 42 43 44 45 46"⟩,
  ⟨12988, 13007, 1, "47 48 49 50 1月 2月 3月 4月 5月 6月 7月 8月 9月 10月 11月 12月 hg erg ev ltd"⟩,
  ⟨13008, 13040, 1, "ア イ ウ エ オ カ キ ク ケ コ サ シ ス セ ソ タ チ ツ テ ト ナ ニ ヌ ネ ノ ハ ヒ フ ヘ ホ マ ミ ム"⟩,
  ⟨13041, 13062, 1, "メ モ ヤ ユ ヨ ラ リ ル レ ロ ワ ヰ ヱ ヲ 令和 アパート アルファ アンペア アール イニング インチ ウォン"⟩,
  ⟨13063, 13076, 1, "エスクード エーカー オンス オーム カイリ カラット カロリー ガロン ガンマ ギガ ギニー キュリー ギルダー キロ"⟩,
  ⟨13077, 13088, 1, "キログラム キロメートル キロワット グラム グラムトン クルゼイロ クローネ ケース コルナ コーポ サイクル サンチーム"⟩,
  ⟨13089, 13104, 1, "シリング センチ セント ダース デシ ドル トン ナノ ノット ハイツ パーセント パーツ バーレル ピアストル ピクル ピコ"⟩,
  ⟨13105, 13119, 1, "ビル ファラッド フィート ブッシェル フラン ヘクタール ペソ ペニヒ ヘルツ ペンス ページ ベータ ポイント ボルト ホン"⟩,
  ⟨13120, 13134, 1, "ポンド ホール ホーン マイクロ マイル マッハ マルク マンション ミクロン ミリ ミリバール メガ メガトン メートル ヤード"⟩,
  ⟨13135, 13152, 1, "ヤール ユアン リットル リラ ルピー ルーブル レム レントゲン ワット 0点 1点 2点 3点 4点 5点 6点 7点 8点"⟩,
  ⟨13153, 13168, 1, "9点 10点 11点 12点 13点 14点 15点 16点 17点 18点 19点 20点 21点 22点 23点 24点"⟩,
  ⟨13169, 13188, 1, "hpa da au bar ov pc dm dm2 dm3 iu 平成 昭和 大正 明治 株式会社 pa na μa ma ka"⟩,
  ⟨13189, 13207, 1, "kb mb gb cal kcal pf nf μf μg mg kg hz khz mhz ghz thz μl ml dl"⟩,
  ⟨13208, 13225, 1, "kl fm nm μm mm cm km mm2 cm2 m2 km2 mm3 cm3 m3 km3 m∕s m∕s2 pa"⟩,
  ⟨13226, 13243, 1, "kpa mpa gpa rad rad∕s rad∕s2 ps ns μs ms pv nv μv mv kv mv pw nw"⟩,
  ⟨13244, 13249, 1, "μw mw kw mw kω mω"⟩, ⟨13251, 13254, 1, "bq cc cd c∕kg"⟩,
  ⟨13256, 13271, 1, "db gy ha hp in kk km kt lm ln log lx mb mil mol ph"⟩,
  ⟨13273, 13291, 1, "ppm pr sr sv wb v∕m a∕m 1日 2日 3日 4日 5日 6日 7日 8日 9日 10日 11日 12日"⟩,
  ⟨13292, 13307, 1, "13日 14日 15日 16日 17日 18日 19日 20日 21日 22日 23日 24日 25日 26日 27日 28日"⟩,
  ⟨13308, 13311, 1, "29日 30日 31日 gal"⟩,
  ⟨42560, 42604, 2, "ꙁ ꙃ ꙅ ꙇ ꙉ ꙋ ꙍ ꙏ ꙑ ꙓ ꙕ ꙗ ꙙ ꙛ ꙝ ꙟ ꙡ ꙣ ꙥ ꙧ ꙩ ꙫ ꙭ"⟩,
  ⟨42624, 42652, 2, "ꚁ ꚃ ꚅ ꚇ ꚉ ꚋ ꚍ ꚏ ꚑ ꚓ ꚕ ꚗ ꚙ ꚛ ъ"⟩, ⟨42653, 42653, 1, "ь"⟩,
  ⟨42786, 42798, 2, "ꜣ ꜥ ꜧ ꜩ ꜫ ꜭ ꜯ"⟩,
  ⟨42802, 42864, 2, "ꜳ ꜵ ꜷ ꜹ ꜻ ꜽ ꜿ ꝁ ꝃ ꝅ ꝇ ꝉ ꝋ ꝍ ꝏ ꝑ ꝓ ꝕ ꝗ ꝙ ꝛ ꝝ ꝟ ꝡ ꝣ ꝥ ꝧ ꝩ ꝫ ꝭ ꝯ ꝯ"⟩,
  ⟨42873, 42877, 2, "ꝺ ꝼ ᵹ"⟩, ⟨42878, 42886, 2, "ꝿ ꞁ ꞃ ꞅ ꞇ"⟩, ⟨42891, 42893, 2, "ꞌ ɥ"⟩,
  ⟨42896, 42898, 2, "ꞑ ꞓ"⟩, ⟨42902, 42922, 2, "ꞗ ꞙ ꞛ ꞝ ꞟ ꞡ ꞣ ꞥ ꞧ ꞩ ɦ"⟩,
  ⟨42923, 42926, 1, "ɜ ɡ ɬ ɪ"⟩, ⟨42928, 42932, 1, "ʞ ʇ ʝ ꭓ ꞵ"⟩,
  ⟨42934, 42948, 2, "ꞷ ꞹ ꞻ ꞽ ꞿ ꟁ ꟃ ꞔ"⟩, ⟨42949, 42951, 1, "ʂ ᶎ ꟈ"⟩, ⟨42953, 42955, 2, "ꟊ ɤ"⟩,
  ⟨42956, 42972, 2, "ꟍ ꟏ ꟑ ꟓ ꟕ ꟗ ꟙ ꟛ ƛ"⟩, ⟨42993, 42997, 1, "s c f q ꟶ"⟩,
  ⟨43000, 43001, 1, "ħ œ"⟩, ⟨43868, 43871, 1, "ꜧ ꬷ ɫ ꭒ"⟩, ⟨43881, 43881, 1, "ʍ"⟩,
  ⟨43888, 43920, 1, "Ꭰ Ꭱ Ꭲ Ꭳ Ꭴ Ꭵ Ꭶ Ꭷ Ꭸ Ꭹ Ꭺ Ꭻ Ꭼ Ꭽ Ꭾ Ꭿ Ꮀ Ꮁ Ꮂ Ꮃ Ꮄ Ꮅ Ꮆ Ꮇ Ꮈ Ꮉ Ꮊ Ꮋ Ꮌ Ꮍ Ꮎ Ꮏ Ꮐ"⟩,
  ⟨43921, 43953, 1, "Ꮑ Ꮒ Ꮓ Ꮔ Ꮕ Ꮖ Ꮗ Ꮘ Ꮙ Ꮚ Ꮛ Ꮜ Ꮝ Ꮞ Ꮟ Ꮠ Ꮡ Ꮢ Ꮣ Ꮤ Ꮥ Ꮦ Ꮧ Ꮨ Ꮩ Ꮪ Ꮫ Ꮬ Ꮭ Ꮮ Ꮯ Ꮰ Ꮱ"⟩,
  ⟨43954, 43967, 1, "Ꮲ Ꮳ Ꮴ Ꮵ Ꮶ Ꮷ Ꮸ Ꮹ Ꮺ Ꮻ Ꮼ Ꮽ Ꮾ Ꮿ"⟩,
  ⟨63744, 63776, 1, "豈 更 車 賈 滑 串 句 龜 龜 契 金 喇 奈 懶 癩 羅 蘿 螺 裸 邏 樂 洛 烙 珞 落 酪 駱 亂 卵 欄 爛 蘭 鸞"⟩,
  ⟨63777, 63809, 1, "嵐 濫 藍 襤 拉 臘 蠟 廊 朗 浪 狼 郎 來 冷 勞 擄 櫓 爐 盧 老 蘆 虜 路 露 魯 鷺 碌 祿 綠 菉 錄 鹿 論"⟩,
  ⟨63810, 63842, 1, "壟 弄 籠 聾 牢 磊 賂 雷 壘 屢 樓 淚 漏 累 縷 陋 勒 肋 凜 凌 稜 綾 菱 陵 讀 拏 樂 諾 丹 寧 怒 率 異"⟩,
  ⟨63843, 63875, 1, "北 磻 便 復 不 泌 數 索 參 塞 省 葉 說 殺 辰 沈 拾 若 掠 略 亮 兩 凉 梁 糧 良 諒 量 勵 呂 女 廬 旅"⟩,
  ⟨63876, 63908, 1, "濾 礪 閭 驪 麗 黎 力 曆 歷 轢 年 憐 戀 撚 漣 煉 璉 秊 練 聯 輦 蓮 連 鍊 列 劣 咽 烈 裂 說 廉 念 捻"⟩,
  ⟨63909, 63941, 1, "殮 簾 獵 令 囹 寧 嶺 怜 玲 瑩 羚 聆 鈴 零 靈 領 例 禮 醴 隸 惡 了 僚 寮 尿 料 樂 燎 療 蓼 遼 龍 暈"⟩,
  ⟨63942, 63974, 1, "阮 劉 杻 柳 流 溜 琉 留 硫 紐 類 六 戮 陸 倫 崙 淪 輪 律 慄 栗 率 隆 利 吏 履 易 李 梨 泥 理 痢 罹"⟩,
  ⟨63975, 64007, 1, "裏 裡 里 離 匿 溺 吝 燐 璘 藺 隣 鱗 麟 林 淋 臨 立 笠 粒 狀 炙 識 什 茶 刺 切 度 拓 糖 宅 洞 暴 輻"⟩,
  ⟨64008, 64013, 1, "行 降 見 廓 兀 嗀"⟩, ⟨64016, 64018, 2, "塚 晴"⟩,
  ⟨64021, 64030, 1, "凞 猪 益 礼 神 祥 福 靖 精 羽"⟩, ⟨64032, 64034, 2, "蘒 諸"⟩, ⟨64037, 64038, 1, "逸 都"⟩,
  ⟨64042, 64074, 1, "飯 飼 館 鶴 郞 隷 侮 僧 免 勉 勤 卑 喝 嘆 器 塀 墨 層 屮 悔 慨 憎 懲 敏 既 暑 梅 海 渚 漢 煮 爫 琢"⟩,
  ⟨64075, 64107, 1, "碑 社 祉 祈 祐 祖 祝 禍 禎 穀 突 節 練 縉 繁 署 者 臭 艹 艹 著 褐 視 謁 謹 賓 贈 辶 逸 難 響 頻 恵"⟩,
  ⟨64108, 64109, 1, "𤋮 舘"⟩,
  ⟨64112, 64144, 1, "並 况 全 侀 充 冀 勇 勺 喝 啕 喙 嗢 塚 墳 奄 奔 婢 嬨 廒 廙 彩 徭 惘 慎 愈 憎 慠 懲 戴 揄 搜 摒 敖"⟩,
  ⟨64145, 64177, 1, "晴 朗 望 杖 歹 殺 流 滛 滋 漢 瀞 煮 瞧 爵 犯 猪 瑱 甆 画 瘝 瘟 益 盛 直 睊 着 磌 窱 節 类 絛 練 缾"⟩,
  ⟨64178, 64210, 1, "者 荒 華 蝹 襁 覆 視 調 諸 請 謁 諾 諭 謹 變 贈 輸 遲 醙 鉶 陼 難 靖 韛 響 頋 頻 鬒 龜 𢡊 𢡄 𣏕 㮝"⟩,
  ⟨64211, 64217, 1, "䀘 䀹 𥉉 𥳐 𧻓 齃 龎"⟩, ⟨64256, 64262, 1, "ff fi fl ffi ffl st st"⟩,
  ⟨64275, 64279, 1, "մն մե մի վն մխ"⟩, ⟨64285, 64287, 2, "\u05d9\u05b4 \u05f2\u05b7"⟩,
  ⟨64288, 64297, 1, "\u05e2 \u05d0 \u05d3 \u05d4 \u05db \u05dc \u05dd \u05e8 \u05ea +"⟩,
  ⟨64298, 64301, 1, "\u05e9\u05c1 \u05e9\u05c2 \u05e9\u05bc\u05c1 \u05e9\u05bc\u05c2"⟩,
  ⟨64302, 64306, 1, "\u05d0\u05b7 \u05d0\u05b8 \u05d0\u05bc \u05d1\u05bc \u05d2\u05bc"⟩,
  ⟨64307, 64310, 1, "\u05d3\u05bc \u05d4\u05bc \u05d5\u05bc \u05d6\u05bc"⟩,
  ⟨64312, 64316, 1, "\u05d8\u05bc \u05d9\u05bc \u05da\u05bc \u05db\u05bc \u05dc\u05bc"⟩,
  ⟨64318, 64320, 2, "\u05de\u05bc \u05e0\u05bc"⟩, ⟨64321, 64323, 2, "\u05e1\u05bc \u05e3\u05bc"⟩,
  ⟨64324, 64326, 2, "\u05e4\u05bc \u05e6\u05bc"⟩,
  ⟨64327, 64331, 1, "\u05e7\u05bc \u05e8\u05bc \u05e9\u05bc \u05ea\u05bc \u05d5\u05b9"⟩,
  ⟨64332, 64337, 1, "\u05d1\u05bf \u05db\u05bf \u05e4\u05bf \u05d0\u05dc \u0671 \u0671"⟩,
  ⟨64338, 64346, 1, "\u067b \u067b \u067b \u067b \u067e \u067e \u067e \u067e \u0680"⟩,
  ⟨64347, 64355, 1, "\u0680 \u0680 \u0680 \u067a \u067a \u067a \u067a \u067f \u067f"⟩,
  ⟨64356, 64364, 1, "\u067f \u067f \u0679 \u0679 \u0679 \u0679 \u06a4 \u06a4 \u06a4"⟩,
  ⟨64365, 64373, 1, "\u06a4 \u06a6 \u06a6 \u06a6 \u06a6 \u0684 \u0684 \u0684 \u0684"⟩,
  ⟨64374, 64382, 1, "\u0683 \u0683 \u0683 \u0683 \u0686 \u0686 \u0686 \u0686 \u0687"⟩,
  ⟨64383, 64391, 1, "\u0687 \u0687 \u0687 \u068d \u068d \u068c \u068c \u068e \u068e"⟩,
  ⟨64392, 64400, 1, "\u0688 \u0688 \u0698 \u0698 \u0691 \u0691 \u06a9 \u06a9 \u06a9"⟩,
  ⟨64401, 64409, 1, "\u06a9 \u06af \u06af \u06af \u06af \u06b3 \u06b3 \u06b3 \u06b3"⟩,
  ⟨64410, 64418, 1, "\u06b1 \u06b1 \u06b1 \u06b1 \u06ba \u06ba \u06bb \u06bb \u06bb"⟩,
  ⟨64419, 64427, 1, "\u06bb \u06c0 \u06c0 \u06c1 \u06c1 \u06c1 \u06c1 \u06be \u06be"⟩,
  ⟨64428, 64433, 1, "\u06be \u06be \u06d2 \u06d2 \u06d3 \u06d3"⟩,
  ⟨64467, 64475, 1, "\u06ad \u06ad \u06ad \u06ad \u06c7 \u06c7 \u06c6 \u06c6 \u06c8"⟩,
  ⟨64476, 64483, 1, "\u06c8 \u06c7\u0674 \u06cb \u06cb \u06c5 \u06c5 \u06c9 \u06c9"⟩,
  ⟨64484, 64490, 1, "\u06d0 \u06d0 \u06d0 \u06d0 \u0649 \u0649 \u0626\u0627"⟩,
  ⟨64491, 64495, 1, "\u0626\u0627 \u0626\u06d5 \u0626\u06d5 \u0626\u0648 \u0626\u0648"⟩,
  ⟨64496, 64500, 1, "\u0626\u06c7 \u0626\u06c7 \u0626\u06c6 \u0626\u06c6 \u0626\u06c8"⟩,
  ⟨64501, 64505, 1, "\u0626\u06c8 \u0626\u06d0 \u0626\u06d0 \u0626\u06d0 \u0626\u0649"⟩,
  ⟨64506, 64511, 1, "\u0626\u0649 \u0626\u0649 \u06cc \u06cc \u06cc \u06cc"⟩,
  ⟨64512, 64516, 1, "\u0626\u062c \u0626\u062d \u0626\u0645 \u0626\u0649 \u0626\u064a"⟩,
  ⟨64517, 64521, 1, "\u0628\u062c \u0628\u062d \u0628\u062e \u0628\u0645 \u0628\u0649"⟩,
  ⟨64522, 64526, 1, "\u0628\u064a \u062a\u062c \u062a\u062d \u062a\u062e \u062a\u0645"⟩,
  ⟨64527, 64531, 1, "\u062a\u0649 \u062a\u064a \u062b\u062c \u062b\u0645 \u062b\u0649"⟩,
  ⟨64532, 64536, 1, "\u062b\u064a \u062c\u062d \u062c\u0645 \u062d\u062c \u062d\u0645"⟩,
  ⟨64537, 64541, 1, "\u062e\u062c \u062e\u062d \u062e\u0645 \u0633\u062c \u0633\u062d"⟩,
  ⟨64542, 64546, 1, "\u0633\u062e \u0633\u0645 \u0635\u062d \u0635\u0645 \u0636\u062c"⟩,
  ⟨64547, 64551, 1, "\u0636\u062d \u0636\u062e \u0636\u0645 \u0637\u062d \u0637\u0645"⟩,
  ⟨64552, 64556, 1, "\u0638\u0645 \u0639\u062c \u0639\u0645 \u063a\u062c \u063a\u0645"⟩,
  ⟨64557, 64561, 1, "\u0641\u062c \u0641\u062d \u0641\u062e \u0641\u0645 \u0641\u0649"⟩,
  ⟨64562, 64566, 1, "\u0641\u064a \u0642\u062d \u0642\u0645 \u0642\u0649 \u0642\u064a"⟩,
  ⟨64567, 64571, 1, "\u0643\u0627 \u0643\u062c \u0643\u062d \u0643\u062e \u0643\u0644"⟩,
  ⟨64572, 64576, 1, "\u0643\u0645 \u0643\u0649 \u0643\u064a \u0644\u062c \u0644\u062d"⟩,
  ⟨64577, 64581, 1, "\u0644\u062e \u0644\u0645 \u0644\u0649 \u0644\u064a \u0645\u062c"⟩,
  ⟨64582, 64586, 1, "\u0645\u062d \u0645\u062e \u0645\u0645 \u0645\u0649 \u0645\u064a"⟩,
  ⟨64587, 64591, 1, "\u0646\u062c \u0646\u062d \u0646\u062e \u0646\u0645 \u0646\u0649"⟩,
  ⟨64592, 64596, 1, "\u0646\u064a \u0647\u062c \u0647\u0645 \u0647\u0649 \u0647\u064a"⟩,
  ⟨64597, 64601, 1, "\u064a\u062c \u064a\u062d \u064a\u062e \u064a\u0645 \u064a\u0649"⟩,
  ⟨64602, 64605, 1, "\u064a\u064a \u0630\u0670 \u0631\u0670 \u0649\u0670"⟩,
  ⟨64612, 64616, 1, "\u0626\u0631 \u0626\u0632 \u0626\u0645 \u0626\u0646 \u0626\u0649"⟩,
  ⟨64617, 64621, 1, "\u0626\u064a \u0628\u0631 \u0628\u0632 \u0628\u0645 \u0628\u0646"⟩,
  ⟨64622, 64626, 1, "\u0628\u0649 \u0628\u064a \u062a\u0631 \u062a\u0632 \u062a\u0645"⟩,
  ⟨64627, 64631, 1, "\u062a\u0646 \u062a\u0649 \u062a\u064a \u062b\u0631 \u062b\u0632"⟩,
  ⟨64632, 64636, 1, "\u062b\u0645 \u062b\u0646 \u062b\u0649 \u062b\u064a \u0641\u0649"⟩,
  ⟨64637, 64641, 1, "\u0641\u064a \u0642\u0649 \u0642\u064a \u0643\u0627 \u0643\u0644"⟩,
  ⟨64642, 64646, 1, "\u0643\u0645 \u0643\u0649 \u0643\u064a \u0644\u0645 \u0644\u0649"⟩,
  ⟨64647, 64651, 1, "\u0644\u064a \u0645\u0627 \u0645\u0645 \u0646\u0631 \u0646\u0632"⟩,
  ⟨64652, 64656, 1, "\u0646\u0645 \u0646\u0646 \u0646\u0649 \u0646\u064a \u0649\u0670"⟩,
  ⟨64657, 64661, 1, "\u064a\u0631 \u064a\u0632 \u064a\u0645 \u064a\u0646 \u064a\u0649"⟩,
  ⟨64662, 64666, 1, "\u064a\u064a \u0626\u062c \u0626\u062d \u0626\u062e \u0626\u0645"⟩,
  ⟨64667, 64671, 1, "\u0626\u0647 \u0628\u062c \u0628\u062d \u0628\u062e \u0628\u0645"⟩,
  ⟨64672, 64676, 1, "\u0628\u0647 \u062a\u062c \u062a\u062d \u062a\u062e \u062a\u0645"⟩,
  ⟨64677, 64681, 1, "\u062a\u0647 \u062b\u0645 \u062c\u062d \u062c\u0645 \u062d\u062c"⟩,
  ⟨64682, 64686, 1, "\u062d\u0645 \u062e\u062c \u062e\u0645 \u0633\u062c \u0633\u062d"⟩,
  ⟨64687, 64691, 1, "\u0633\u062e \u0633\u0645 \u0635\u062d \u0635\u062e \u0635\u0645"⟩,
  ⟨64692, 64696, 1, "\u0636\u062c \u0636\u062d \u0636\u062e \u0636\u0645 \u0637\u062d"⟩,
  ⟨64697, 64701, 1, "\u0638\u0645 \u0639\u062c \u0639\u0645 \u063a\u062c \u063a\u0645"⟩,
  ⟨64702, 64706, 1, "\u0641\u062c \u0641\u062d \u0641\u062e \u0641\u0645 \u0642\u062d"⟩,
  ⟨64707, 64711, 1, "\u0642\u0645 \u0643\u062c \u0643\u062d \u0643\u062e \u0643\u0644"⟩,
  ⟨64712, 64716, 1, "\u0643\u0645 \u0644\u062c \u0644\u062d \u0644\u062e \u0644\u0645"⟩,
  ⟨64717, 64721, 1, "\u0644\u0647 \u0645\u062c \u0645\u062d \u0645\u062e \u0645\u0645"⟩,
  ⟨64722, 64726, 1, "\u0646\u062c \u0646\u062d \u0646\u062e \u0646\u0645 \u0646\u0647"⟩,
  ⟨64727, 64731, 1, "\u0647\u062c \u0647\u0645 \u0647\u0670 \u064a\u062c \u064a\u062d"⟩,
  ⟨64732, 64736, 1, "\u064a\u062e \u064a\u0645 \u064a\u0647 \u0626\u0645 \u0626\u0647"⟩,
  ⟨64737, 64741, 1, "\u0628\u0645 \u0628\u0647 \u062a\u0645 \u062a\u0647 \u062b\u0645"⟩,
  ⟨64742, 64746, 1, "\u062b\u0647 \u0633\u0645 \u0633\u0647 \u0634\u0645 \u0634\u0647"⟩,
  ⟨64747, 64751, 1, "\u0643\u0644 \u0643\u0645 \u0644\u0645 \u0646\u0645 \u0646\u0647"⟩,
  ⟨64752, 64755, 1, "\u064a\u0645 \u064a\u0647 \u0640\u064e\u0651 \u0640\u064f\u0651"⟩,
  ⟨64756, 64759, 1, "\u0640\u0650\u0651 \u0637\u0649 \u0637\u064a \u0639\u0649"⟩,
  ⟨64760, 64764, 1, "\u0639\u064a \u063a\u0649 \u063a\u064a \u0633\u0649 \u0633\u064a"⟩,
  ⟨64765, 64769, 1, "\u0634\u0649 \u0634\u064a \u062d\u0649 \u062d\u064a \u062c\u0649"⟩,
  ⟨64770, 64774, 1, "\u062c\u064a \u062e\u0649 \u062e\u064a \u0635\u0649 \u0635\u064a"⟩,
  ⟨64775, 64779, 1, "\u0636\u0649 \u0636\u064a \u0634\u062c \u0634\u062d \u0634\u062e"⟩,
  ⟨64780, 64784, 1, "\u0634\u0645 \u0634\u0631 \u0633\u0631 \u0635\u0631 \u0636\u0631"⟩,
  ⟨64785, 64789, 1, "\u0637\u0649 \u0637\u064a \u0639\u0649 \u0639\u064a \u063a\u0649"⟩,
  ⟨64790, 64794, 1, "\u063a\u064a \u0633\u0649 \u0633\u064a \u0634\u0649 \u0634\u064a"⟩,
  ⟨64795, 64799, 1, "\u062d\u0649 \u062d\u064a \u062c\u0649 \u062c\u064a \u062e\u0649"⟩,
  ⟨64800, 64804, 1, "\u062e\u064a \u0635\u0649 \u0635\u064a \u0636\u0649 \u0636\u064a"⟩,
  ⟨64805, 64809, 1, "\u0634\u062c \u0634\u062d \u0634\u062e \u0634\u0645 \u0634\u0631"⟩,
  ⟨64810, 64814, 1, "\u0633\u0631 \u0635\u0631 \u0636\u0631 \u0634\u062c \u0634\u062d"⟩,
  ⟨64815, 64819, 1, "\u0634\u062e \u0634\u0645 \u0633\u0647 \u0634\u0647 \u0637\u0645"⟩,
  ⟨64820, 64824, 1, "\u0633\u062c \u0633\u062d \u0633\u062e \u0634\u062c \u0634\u062d"⟩,
  ⟨64825, 64829, 1, "\u0634\u062e \u0637\u0645 \u0638\u0645 \u0627\u064b \u0627\u064b"⟩,
  ⟨64848, 64850, 1, "\u062a\u062c\u0645 \u062a\u062d\u062c \u062a\u062d\u062c"⟩,
  ⟨64851, 64853, 1, "\u062a\u062d\u0645 \u062a\u062e\u0645 \u062a\u0645\u062c"⟩,
  ⟨64854, 64856, 1, "\u062a\u0645\u062d \u062a\u0645\u062e \u062c\u0645\u062d"⟩,
  ⟨64857, 64859, 1, "\u062c\u0645\u062d \u062d\u0645\u064a \u062d\u0645\u0649"⟩,
  ⟨64860, 64862, 1, "\u0633\u062d\u062c \u0633\u062c\u062d \u0633\u062c\u0649"⟩,
  ⟨64863, 64865, 1, "\u0633\u0645\u062d \u0633\u0645\u062d \u0633\u0645\u062c"⟩,
  ⟨64866, 64868, 1, "\u0633\u0645\u0645 \u0633\u0645\u0645 \u0635\u062d\u062d"⟩,
  ⟨64869, 64871, 1, "\u0635\u062d\u062d \u0635\u0645\u0645 \u0634\u062d\u0645"⟩,
  ⟨64872, 64874, 1, "\u0634\u062d\u0645 \u0634\u062c\u064a \u0634\u0645\u062e"⟩,
  ⟨64875, 64877, 1, "\u0634\u0645\u062e \u0634\u0645\u0645 \u0634\u0645\u0645"⟩,
  ⟨64878, 64880, 1, "\u0636\u062d\u0649 \u0636\u062e\u0645 \u0636\u062e\u0645"⟩,
  ⟨64881, 64883, 1, "\u0637\u0645\u062d \u0637\u0645\u062d \u0637\u0645\u0645"⟩,
  ⟨64884, 64886, 1, "\u0637\u0645\u064a \u0639\u062c\u0645 \u0639\u0645\u0645"⟩,
  ⟨64887, 64889, 1, "\u0639\u0645\u0645 \u0639\u0645\u0649 \u063a\u0645\u0645"⟩,
  ⟨64890, 64892, 1, "\u063a\u0645\u064a \u063a\u0645\u0649 \u0641\u062e\u0645"⟩,
  ⟨64893, 64895, 1, "\u0641\u062e\u0645 \u0642\u0645\u062d \u0642\u0645\u0645"⟩,
  ⟨64896, 64898, 1, "\u0644\u062d\u0645 \u0644\u062d\u064a \u0644\u062d\u0649"⟩,
  ⟨64899, 64901, 1, "\u0644\u062c\u062c \u0644\u062c\u062c \u0644\u062e\u0645"⟩,
  ⟨64902, 64904, 1, "\u0644\u062e\u0645 \u0644\u0645\u062d \u0644\u0645\u062d"⟩,
  ⟨64905, 64907, 1, "\u0645\u062d\u062c \u0645\u062d\u0645 \u0645\u062d\u064a"⟩,
  ⟨64908, 64910, 1, "\u0645\u062c\u062d \u0645\u062c\u0645 \u0645\u062e\u062c"⟩,
  ⟨64911, 64911, 1, "\u0645\u062e\u0645"⟩,
  ⟨64914, 64916, 1, "\u0645\u062c\u062e \u0647\u0645\u062c \u0647\u0645\u0645"⟩,
  ⟨64917, 64919, 1, "\u0646\u062d\u0645 \u0646\u062d\u0649 \u0646\u062c\u0645"⟩,
  ⟨64920, 64922, 1, "\u0646\u062c\u0645 \u0646\u062c\u0649 \u0646\u0645\u064a"⟩,
  ⟨64923, 64925, 1, "\u0646\u0645\u0649 \u064a\u0645\u0645 \u064a\u0645\u0645"⟩,
  ⟨64926, 64928, 1, "\u0628\u062e\u064a \u062a\u062c\u064a \u062a\u062c\u0649"⟩,
  ⟨64929, 64931, 1, "\u062a\u062e\u064a \u062a\u062e\u0649 \u062a\u0645\u064a"⟩,
  ⟨64932, 64934, 1, "\u062a\u0645\u0649 \u062c\u0645\u064a \u062c\u062d\u0649"⟩,
  ⟨64935, 64937, 1, "\u062c\u0645\u0649 \u0633\u062e\u0649 \u0635\u062d\u064a"⟩,
  ⟨64938, 64940, 1, "\u0634\u062d\u064a \u0636\u062d\u064a \u0644\u062c\u064a"⟩,
  ⟨64941, 64943, 1, "\u0644\u0645\u064a \u064a\u062d\u064a \u064a\u062c\u064a"⟩,
  ⟨64944, 64946, 1, "\u064a\u0645\u064a \u0645\u0645\u064a \u0642\u0645\u064a"⟩,
  ⟨64947, 64949, 1, "\u0646\u062d\u064a \u0642\u0645\u062d \u0644\u062d\u0645"⟩,
  ⟨64950, 64952, 1, "\u0639\u0645\u064a \u0643\u0645\u064a \u0646\u062c\u062d"⟩,
  ⟨64953, 64955, 1, "\u0645\u062e\u064a \u0644\u062c\u0645 \u0643\u0645\u0645"⟩,
  ⟨64956, 64958, 1, "\u0644\u062c\u0645 \u0646\u062c\u062d \u062c\u062d\u064a"⟩,
  ⟨64959, 64961, 1, "\u062d\u062c\u064a \u0645\u062c\u064a \u0641\u0645\u064a"⟩,
  ⟨64962, 64964, 1, "\u0628\u062d\u064a \u0643\u0645\u0645 \u0639\u062c\u0645"⟩,
  ⟨64965, 64967, 1, "\u0635\u0645\u0645 \u0633\u062e\u064a \u0646\u062c\u064a"⟩,
  ⟨65008, 65010, 1, "\u0635\u0644\u06d2 \u0642\u0644\u06d2 \u0627\u0644\u0644\u0647"⟩,
  ⟨65011, 65012, 1, "\u0627\u0643\u0628\u0631 \u0645\u062d\u0645\u062f"⟩,
  ⟨65013, 65014, 1, "\u0635\u0644\u0639\u0645 \u0631\u0633\u0648\u0644"⟩,
  ⟨65015, 65016, 1, "\u0639\u0644\u064a\u0647 \u0648\u0633\u0644\u0645"⟩,
  ⟨65017, 65017, 1, "\u0635\u0644\u0649"⟩, ⟨65020, 65020, 1, "\u0631\u06cc\u0627\u0644"⟩,
  ⟨65040, 65041, 1, ", 、"⟩, ⟨65043, 65048, 1, ": ; ! ? 〖 〗"⟩,
  ⟨65073, 65092, 1, "— – _ _ ( ) \x7b \x7d 〔 〕 【 】 《 》 〈 〉 「 」 『 』"⟩, ⟨65095, 65096, 1, "[ ]"⟩,
  ⟨65101, 65105, 1, "_ _ _ , 、"⟩,
  ⟨65108, 65126, 1, "; : ? ! — ( ) \x7b \x7d 〔 〕 # & * + - < > ="⟩, ⟨65128, 65131, 1, "\\ $ % @"⟩,
  ⟨65137, 65137, 1, "\u0640\u064b"⟩,
  ⟨65143, 65151, 2, "\u0640\u064e \u0640\u064f \u0640\u0650 \u0640\u0651 \u0640\u0652"⟩,
  ⟨65152, 65160, 1, "\u0621 \u0622 \u0622 \u0623 \u0623 \u0624 \u0624 \u0625 \u0625"⟩,
  ⟨65161, 65169, 1, "\u0626 \u0626 \u0626 \u0626 \u0627 \u0627 \u0628 \u0628 \u0628"⟩,
  ⟨65170, 65178, 1, "\u0628 \u0629 \u0629 \u062a \u062a \u062a \u062a \u062b \u062b"⟩,
  ⟨65179, 65187, 1, "\u062b \u062b \u062c \u062c \u062c \u062c \u062d \u062d \u062d"⟩,
  ⟨65188, 65196, 1, "\u062d \u062e \u062e \u062e \u062e \u062f \u062f \u0630 \u0630"⟩,
  ⟨65197, 65205, 1, "\u0631 \u0631 \u0632 \u0632 \u0633 \u0633 \u0633 \u0633 \u0634"⟩,
  ⟨65206, 65214, 1, "\u0634 \u0634 \u0634 \u0635 \u0635 \u0635 \u0635 \u0636 \u0636"⟩,
  ⟨65215, 65223, 1, "\u0636 \u0636 \u0637 \u0637 \u0637 \u0637 \u0638 \u0638 \u0638"⟩,
  ⟨65224, 65232, 1, "\u0638 \u0639 \u0639 \u0639 \u0639 \u063a \u063a \u063a \u063a"⟩,
  ⟨65233, 65241, 1, "\u0641 \u0641 \u0641 \u0641 \u0642 \u0642 \u0642 \u0642 \u0643"⟩,
  ⟨65242, 65250, 1, "\u0643 \u0643 \u0643 \u0644 \u0644 \u0644 \u0644 \u0645 \u0645"⟩,
  ⟨65251, 65259, 1, "\u0645 \u0645 \u0646 \u0646 \u0646 \u0646 \u0647 \u0647 \u0647"⟩,
  ⟨65260, 65268, 1, "\u0647 \u0648 \u0648 \u0649 \u0649 \u064a \u064a \u064a \u064a"⟩,
  ⟨65269, 65273, 1, "\u0644\u0622 \u0644\u0622 \u0644\u0623 \u0644\u0623 \u0644\u0625"⟩,
  ⟨65274, 65276, 1, "\u0644\u0625 \u0644\u0627 \u0644\u0627"⟩,
  ⟨65281, 65312, 1, "! \" # $ % & ' ( ) * + , - . / 0 1 2 3 4 5 6 7 8 9 : ; < = > ? @"⟩,
  ⟨65313, 65344, 1, "a b c d e f g h i j k l m n o p q r s t u v w x y z [ \\ ] ^ _ `"⟩,
  ⟨65345, 65374, 1, "a b c d e f g h i j k l m n o p q r s t u v w x y z \x7b | \x7d ~"⟩,
  ⟨65375, 65407, 1, "⦅ ⦆ . 「 」 、 ・ ヲ ァ ィ ゥ ェ ォ ャ ュ ョ ッ ー ア イ ウ エ オ カ キ ク ケ コ サ シ ス セ ソ"⟩,
  ⟨65408, 65437, 1, "タ チ ツ テ ト ナ ニ ヌ ネ ノ ハ ヒ フ ヘ ホ マ ミ ム メ モ ヤ ユ ヨ ラ リ ル レ ロ ワ ン"⟩,
  ⟨65438, 65439, 1, "\u3099 \u309a"⟩,
  ⟨65441, 65470, 1, "ᄀ ᄁ ᆪ ᄂ ᆬ ᆭ ᄃ ᄄ ᄅ ᆰ ᆱ ᆲ ᆳ ᆴ ᆵ ᄚ ᄆ ᄇ ᄈ ᄡ ᄉ ᄊ ᄋ ᄌ ᄍ ᄎ ᄏ ᄐ ᄑ ᄒ"⟩,
  ⟨65474, 65479, 1, "ᅡ ᅢ ᅣ ᅤ ᅥ ᅦ"⟩, ⟨65482, 65487, 1, "ᅧ ᅨ ᅩ ᅪ ᅫ ᅬ"⟩,
  ⟨65490, 65495, 1, "ᅭ ᅮ ᅯ ᅰ ᅱ ᅲ"⟩, ⟨65498, 65500, 1, "ᅳ ᅴ ᅵ"⟩, ⟨65504, 65506, 1, "¢ £ ¬"⟩,
  ⟨65508, 65510, 1, "¦ ¥ ₩"⟩, ⟨65512, 65518, 1, "│ ← ↑ → ↓ ■ ○"⟩,
  ⟨66560, 66592, 1, "𐐨 𐐩 𐐪 𐐫 𐐬 𐐭 𐐮 𐐯 𐐰 𐐱 𐐲 𐐳 𐐴 𐐵 𐐶 𐐷 𐐸 𐐹 𐐺 𐐻 𐐼 𐐽 𐐾 𐐿 𐑀 𐑁 𐑂 𐑃 𐑄 𐑅 𐑆 𐑇 𐑈"⟩,
  ⟨66593, 66599, 1, "𐑉 𐑊 𐑋 𐑌 𐑍 𐑎 𐑏"⟩,
  ⟨66736, 66768, 1, "𐓘 𐓙 𐓚 𐓛 𐓜 𐓝 𐓞 𐓟 𐓠 𐓡 𐓢 𐓣 𐓤 𐓥 𐓦 𐓧 𐓨 𐓩 𐓪 𐓫 𐓬 𐓭 𐓮 𐓯 𐓰 𐓱 𐓲 𐓳 𐓴 𐓵 𐓶 𐓷 𐓸"⟩,
  ⟨66769, 66771, 1, "𐓹 𐓺 𐓻"⟩, ⟨66928, 66938, 1, "𐖗 𐖘 𐖙 𐖚 𐖛 𐖜 𐖝 𐖞 𐖟 𐖠 𐖡"⟩,
  ⟨66940, 66954, 1, "𐖣 𐖤 𐖥 𐖦 𐖧 𐖨 𐖩 𐖪 𐖫 𐖬 𐖭 𐖮 𐖯 𐖰 𐖱"⟩, ⟨66956, 66962, 1, "𐖳 𐖴 𐖵 𐖶 𐖷 𐖸 𐖹"⟩,
  ⟨66964, 66965, 1, "𐖻 𐖼"⟩, ⟨67457, 67461, 1, "ː ˑ æ ʙ ɓ"⟩,
  ⟨67463, 67495, 1, "ʣ ꭦ ʥ ʤ ɖ ɗ ᶑ ɘ ɞ ʩ ɤ ɢ ɠ ʛ ħ ʜ ɧ ʄ ʪ ʫ ɬ 𝼄 ꞎ ɮ 𝼅 ʎ 𝼆 ø ɶ ɷ q ɺ 𝼈"⟩,
  ⟨67496, 67504, 1, "ɽ ɾ ʀ ʨ ʦ ꭧ ʧ ʈ ⱱ"⟩, ⟨67506, 67514, 1, "ʏ ʡ ʢ ʘ ǀ ǁ ǂ 𝼊 𝼞"⟩,
  ⟨68736, 68768, 1, "𐳀 𐳁 𐳂 𐳃 𐳄 𐳅 𐳆 𐳇 𐳈 𐳉 𐳊 𐳋 𐳌 𐳍 𐳎 𐳏 𐳐 𐳑 𐳒 𐳓 𐳔 𐳕 𐳖 𐳗 𐳘 𐳙 𐳚 𐳛 𐳜 𐳝 𐳞 𐳟 𐳠"⟩,
  ⟨68769, 68786, 1, "𐳡 𐳢 𐳣 𐳤 𐳥 𐳦 𐳧 𐳨 𐳩 𐳪 𐳫 𐳬 𐳭 𐳮 𐳯 𐳰 𐳱 𐳲"⟩,
  ⟨68944, 68965, 1, "𐵰 𐵱 𐵲 𐵳 𐵴 𐵵 𐵶 𐵷 𐵸 𐵹 𐵺 𐵻 𐵼 𐵽 𐵾 𐵿 𐶀 𐶁 𐶂 𐶃 𐶄 𐶅"⟩,
  ⟨71840, 71871, 1, "𑣀 𑣁 𑣂 𑣃 𑣄 𑣅 𑣆 𑣇 𑣈 𑣉 𑣊 𑣋 𑣌 𑣍 𑣎 𑣏 𑣐 𑣑 𑣒 𑣓 𑣔 𑣕 𑣖 𑣗 𑣘 𑣙 𑣚 𑣛 𑣜 𑣝 𑣞 𑣟"⟩,
  ⟨93760, 93791, 1, "𖹠 𖹡 𖹢 𖹣 𖹤 𖹥 𖹦 𖹧 𖹨 𖹩 𖹪 𖹫 𖹬 𖹭 𖹮 𖹯 𖹰 𖹱 𖹲 𖹳 𖹴 𖹵 𖹶 𖹷 𖹸 𖹹 𖹺 𖹻 𖹼 𖹽 𖹾 𖹿"⟩,
  ⟨93856, 93880, 1, "𖺻 𖺼 𖺽 𖺾 𖺿 𖻀 𖻁 𖻂 𖻃 𖻄 𖻅 𖻆 𖻇 𖻈 𖻉 𖻊 𖻋 𖻌 𖻍 𖻎 𖻏 𖻐 𖻑 𖻒 𖻓"⟩,
  ⟨117974, 118006, 1, "a b c d e f g h i j k l m n o p q r s t u v w x y z 0 1 2 3 4 5 6"⟩,
  ⟨118007, 118009, 1, "7 8 9"⟩, ⟨119134, 119140, 1, "𝅗𝅥 𝅘𝅥 𝅘𝅥𝅮 𝅘𝅥𝅯 𝅘𝅥𝅰 𝅘𝅥𝅱 𝅘𝅥𝅲"⟩,
  ⟨119227, 119232, 1, "𝆹𝅥 𝆺𝅥 𝆹𝅥𝅮 𝆺𝅥𝅮 𝆹𝅥𝅯 𝆺𝅥𝅯"⟩,
  ⟨119808, 119840, 1, "a b c d e f g h i j k l m n o p q r s t u v w x y z a b c d e f g"⟩,
  ⟨119841, 119873, 1, "h i j k l m n o p q r s t u v w x y z a b c d e f g h i j k l m n"⟩,
  ⟨119874, 119892, 1, "o p q r s t u v w x y z a b c d e f g"⟩,
  ⟨119894, 119926, 1, "i j k l m n o p q r s t u v w x y z a b c d e f g h i j k l m n o"⟩,
  ⟨119927, 119959, 1, "p q r s t u v w x y z a b c d e f g h i j k l m n o p q r s t u v"⟩,
  ⟨119960, 119964, 1, "w x y z a"⟩, ⟨119966, 119967, 1, "c d"⟩, ⟨119970, 119970, 1, "g"⟩,
  ⟨119973, 119974, 1, "j k"⟩, ⟨119977, 119980, 1, "n o p q"⟩,
  ⟨119982, 119993, 1, "s t u v w x y z a b c d"⟩, ⟨119995, 119997, 2, "f h"⟩,
  ⟨119998, 120003, 1, "i j k l m n"⟩,
  ⟨120005, 120037, 1, "p q r s t u v w x y z a b c d e f g h i j k l m n o p q r s t u v"⟩,
  ⟨120038, 120069, 1, "w x y z a b c d e f g h i j k l m n o p q r s t u v w x y z a b"⟩,
  ⟨120071, 120074, 1, "d e f g"⟩, ⟨120077, 120084, 1, "j k l m n o p q"⟩,
  ⟨120086, 120092, 1, "s t u v w x y"⟩,
  ⟨120094, 120121, 1, "a b c d e f g h i j k l m n o p q r s t u v w x y z a b"⟩,
  ⟨120123, 120126, 1, "d e f g"⟩, ⟨120128, 120132, 1, "i j k l m"⟩, ⟨120134, 120134, 1, "o"⟩,
  ⟨120138, 120144, 1, "s t u v w x y"⟩,
  ⟨120146, 120178, 1, "a b c d e f g h i j k l m n o p q r s t u v w x y z a b c d e f g"⟩,
  ⟨120179, 120211, 1, "h i j k l m n o p q r s t u v w x y z a b c d e f g h i j k l m n"⟩,
  ⟨120212, 120244, 1, "o p q r s t u v w x y z a b c d e f g h i j k l m n o p q r s t u"⟩,
  ⟨120245, 120277, 1, "v w x y z a b c d e f g h i j k l m n o p q r s t u v w x y z a b"⟩,
  ⟨120278, 120310, 1, "c d e f g h i j k l m n o p q r s t u v w x y z a b c d e f g h i"⟩,
  ⟨120311, 120343, 1, "j k l m n o p q r s t u v w x y z a b c d e f g h i j k l m n o p"⟩,
  ⟨120344, 120376, 1, "q r s t u v w x y z a b c d e f g h i j k l m n o p q r s t u v w"⟩,
  ⟨120377, 120409, 1, "x y z a b c d e f g h i j k l m n o p q r s t u v w x y z a b c d"⟩,
  ⟨120410, 120442, 1, "e f g h i j k l m n o p q r s t u v w x y z a b c d e f g h i j k"⟩,
  ⟨120443, 120475, 1, "l m n o p q r s t u v w x y z a b c d e f g h i j k l m n o p q r"⟩,
  ⟨120476, 120485, 1, "s t u v w x y z ı ȷ"⟩,
  ⟨120488, 120520, 1, "α β γ δ ε ζ η θ ι κ λ μ ν ξ ο π ρ θ σ τ υ φ χ ψ ω ∇ α β γ δ ε ζ η"⟩,
  ⟨120521, 120553, 1, "θ ι κ λ μ ν ξ ο π ρ σ σ τ υ φ χ ψ ω ∂ ε θ κ φ ρ π α β γ δ ε ζ η θ"⟩,
  ⟨120554, 120586, 1, "ι κ λ μ ν ξ ο π ρ θ σ τ υ φ χ ψ ω ∇ α β γ δ ε ζ η θ ι κ λ μ ν ξ ο"⟩,
  ⟨120587, 120619, 1, "π ρ σ σ τ υ φ χ ψ ω ∂ ε θ κ φ ρ π α β γ δ ε ζ η θ ι κ λ μ ν ξ ο π"⟩,
  ⟨120620, 120652, 1, "ρ θ σ τ υ φ χ ψ ω ∇ α β γ δ ε ζ η θ ι κ λ μ ν ξ ο π ρ σ σ τ υ φ χ"⟩,
  ⟨120653, 120685, 1, "ψ ω ∂ ε θ κ φ ρ π α β γ δ ε ζ η θ ι κ λ μ ν ξ ο π ρ θ σ τ υ φ χ ψ"⟩,
  ⟨120686, 120718, 1, "ω ∇ α β γ δ ε ζ η θ ι κ λ μ ν ξ ο π ρ σ σ τ υ φ χ ψ ω ∂ ε θ κ φ ρ"⟩,
  ⟨120719, 120751, 1, "π α β γ δ ε ζ η θ ι κ λ μ ν ξ ο π ρ θ σ τ υ φ χ ψ ω ∇ α β γ δ ε ζ"⟩,
  ⟨120752, 120779, 1, "η θ ι κ λ μ ν ξ ο π ρ σ σ τ υ φ χ ψ ω ∂ ε θ κ φ ρ π ϝ ϝ"⟩,
  ⟨120782, 120814, 1, "0 1 2 3 4 5 6 7 8 9 0 1 2 3 4 5 6 7 8 9 0 1 2 3 4 5 6 7 8 9 0 1 2"⟩,
  ⟨120815, 120831, 1, "3 4 5 6 7 8 9 0 1 2 3 4 5 6 7 8 9"⟩,
  ⟨122928, 122960, 1, "а б в г д е ж з и к л м о п р с т у ф х ц ч ш ы э ю ꚉ ә і ј ө ү ӏ"⟩,
  ⟨122961, 122989, 1, "а б в г д е ж з и к л о п с у ф х ц ч ш ъ ы ґ і ѕ џ ҫ ꙑ ұ"⟩,
  ⟨125184, 125216, 1, "𞤢 𞤣 𞤤 𞤥 𞤦 𞤧 𞤨 𞤩 𞤪 𞤫 𞤬 𞤭 𞤮 𞤯 𞤰 𞤱 𞤲 𞤳 𞤴 𞤵 𞤶 𞤷 𞤸 𞤹 𞤺 𞤻 𞤼 𞤽 𞤾 𞤿 𞥀 𞥁 𞥂"⟩,
  ⟨125217, 125217, 1, "𞥃"⟩, ⟨126464, 126467, 1, "\u0627 \u0628 \u062c \u062f"⟩,
  ⟨126469, 126477, 1, "\u0648 \u0632 \u062d \u0637 \u064a \u0643 \u0644 \u0645 \u0646"⟩,
  ⟨126478, 126486, 1, "\u0633 \u0639 \u0641 \u0635 \u0642 \u0631 \u0634 \u062a \u062b"⟩,
  ⟨126487, 126495, 1, "\u062e \u0630 \u0636 \u0638 \u063a \u066e \u06ba \u06a1 \u066f"⟩,
  ⟨126497, 126498, 1, "\u0628 \u062c"⟩, ⟨126500, 126500, 1, "\u0647"⟩,
  ⟨126503, 126505, 2, "\u062d \u064a"⟩,
  ⟨126506, 126514, 1, "\u0643 \u0644 \u0645 \u0646 \u0633 \u0639 \u0641 \u0635 \u0642"⟩,
  ⟨126516, 126519, 1, "\u0634 \u062a \u062b \u062e"⟩, ⟨126521, 126523, 2, "\u0636 \u063a"⟩,
  ⟨126530, 126530, 1, "\u062c"⟩, ⟨126535, 126541, 2, "\u062d \u064a \u0644 \u0646"⟩,
  ⟨126542, 126543, 1, "\u0633 \u0639"⟩, ⟨126545, 126546, 1, "\u0635 \u0642"⟩,
  ⟨126548, 126548, 1, "\u0634"⟩, ⟨126551, 126561, 2, "\u062e \u0636 \u063a \u06ba \u066f \u0628"⟩,
  ⟨126562, 126564, 2, "\u062c \u0647"⟩, ⟨126567, 126570, 1, "\u062d \u0637 \u064a \u0643"⟩,
  ⟨126572, 126578, 1, "\u0645 \u0646 \u0633 \u0639 \u0641 \u0635 \u0642"⟩,
  ⟨126580, 126583, 1, "\u0634 \u062a \u062b \u062e"⟩,
  ⟨126585, 126588, 1, "\u0636 \u0638 \u063a \u066e"⟩, ⟨126590, 126592, 2, "\u06a1 \u0627"⟩,
  ⟨126593, 126601, 1, "\u0628 \u062c \u062f \u0647 \u0648 \u0632 \u062d \u0637 \u064a"⟩,
  ⟨126603, 126611, 1, "\u0644 \u0645 \u0646 \u0633 \u0639 \u0641 \u0635 \u0642 \u0631"⟩,
  ⟨126612, 126619, 1, "\u0634 \u062a \u062b \u062e \u0630 \u0636 \u0638 \u063a"⟩,
  ⟨126625, 126627, 1, "\u0628 \u062c \u062f"⟩,
  ⟨126629, 126633, 1, "\u0648 \u0632 \u062d \u0637 \u064a"⟩,
  ⟨126635, 126643, 1, "\u0644 \u0645 \u0646 \u0633 \u0639 \u0641 \u0635 \u0642 \u0631"⟩,
  ⟨126644, 126651, 1, "\u0634 \u062a \u062b \u062e \u0630 \u0636 \u0638 \u063a"⟩,
  ⟨127233, 127242, 1, "0, 1, 2, 3, 4, 5, 6, 7, 8, 9,"⟩,
  ⟨127248, 127263, 1, "(a) (b) (c) (d) (e) (f) (g) (h) (i) (j) (k) (l) (m) (n) (o) (p)"⟩,
  ⟨127264, 127278, 1, "(q) (r) (s) (t) (u) (v) (w) (x) (y) (z) 〔s〕 c r cd wz"⟩,
  ⟨127280, 127309, 1, "a b c d e f g h i j k l m n o p q r s t u v w x y z hv mv sd ss"⟩,
  ⟨127310, 127311, 1, "ppv wc"⟩, ⟨127338, 127340, 1, "mc md mr"⟩, ⟨127376, 127376, 1, "dj"⟩,
  ⟨127488, 127490, 1, "ほか ココ サ"⟩,
  ⟨127504, 127536, 1, "手 字 双 デ 二 多 解 天 交 映 無 料 前 後 再 新 初 終 生 販 声 吹 演 投 捕 一 三 遊 左 中 右 指 走"⟩,
  ⟨127537, 127547, 1, "打 禁 空 合 満 有 月 申 割 営 配"⟩,
  ⟨127552, 127560, 1, "〔本〕 〔三〕 〔二〕 〔安〕 〔点〕 〔打〕 〔盗〕 〔勝〕 〔敗〕"⟩, ⟨127568, 127569, 1, "得 可"⟩,
  ⟨130032, 130041, 1, "0 1 2 3 4 5 6 7 8 9"⟩,
  ⟨194560, 194592, 1, "丽 丸 乁 𠄢 你 侮 侻 倂 偺 備 僧 像 㒞 𠘺 免 兔 兤 具 𠔜 㒹 內 再 𠕋 冗 冤 仌 冬 况 𩇟 凵 刃 㓟 刻"⟩,
  ⟨194593, 194625, 1, "剆 割 剷 㔕 勇 勉 勤 勺 包 匆 北 卉 卑 博 即 卽 卿 卿 卿 𠨬 灰 及 叟 𠭣 叫 叱 吆 咞 吸 呈 周 咢 哶"⟩,
  ⟨194626, 194658, 1, "唐 啓 啣 善 善 喙 喫 喳 嗂 圖 嘆 圗 噑 噴 切 壮 城 埴 堍 型 堲 報 墬 𡓤 売 壷 夆 多 夢 奢 𡚨 𡛪 姬"⟩,
  ⟨194659, 194691, 1, "娛 娧 姘 婦 㛮 㛼 嬈 嬾 嬾 𡧈 寃 寘 寧 寳 𡬘 寿 将 当 尢 㞁 屠 屮 峀 岍 𡷤 嵃 𡷦 嵮 嵫 嵼 巡 巢 㠯"⟩,
  ⟨194692, 194724, 1, "巽 帨 帽 幩 㡢 𢆃 㡼 庰 庳 庶 廊 𪎒 廾 𢌱 𢌱 舁 弢 弢 㣇 𣊸 𦇚 形 彫 㣣 徚 忍 志 忹 悁 㤺 㤜 悔 𢛔"⟩,
  ⟨194725, 194757, 1, "惇 慈 慌 慎 慌 慺 憎 憲 憤 憯 懞 懲 懶 成 戛 扝 抱 拔 捐 𢬌 挽 拼 捨 掃 揤 𢯱 搢 揅 掩 㨮 摩 摾 撝"⟩,
  ⟨194758, 194790, 1, "摷 㩬 敏 敬 𣀊 旣 書 晉 㬙 暑 㬈 㫤 冒 冕 最 暜 肭 䏙 朗 望 朡 杞 杓 𣏃 㭉 柺 枅 桒 梅 𣑭 梎 栟 椔"⟩,
  ⟨194791, 194823, 1, "㮝 楂 榣 槪 檨 𣚣 櫛 㰘 次 𣢧 歔 㱎 歲 殟 殺 殻 𣪍 𡴋 𣫺 汎 𣲼 沿 泍 汧 洖 派 海 流 浩 浸 涅 𣴞 洴"⟩,
  ⟨194824, 194856, 1, "港 湮 㴳 滋 滇 𣻑 淹 潮 𣽞 𣾎 濆 瀹 瀞 瀛 㶖 灊 災 灷 炭 𠔥 煅 𤉣 熜 𤎫 爨 爵 牐 𤘈 犀 犕 𤜵 𤠔 獺"⟩,
  ⟨194857, 194889, 1, "王 㺬 玥 㺸 㺸 瑇 瑜 瑱 璅 瓊 㼛 甤 𤰶 甾 𤲒 異 𢆟 瘐 𤾡 𤾸 𥁄 㿼 䀈 直 𥃳 𥃲 𥄙 𥄳 眞 真 真 睊 䀹"⟩,
  ⟨194890, 194922, 1, "瞋 䁆 䂖 𥐝 硎 碌 磌 䃣 𥘦 祖 𥚚 𥛅 福 秫 䄯 穀 穊 穏 𥥼 𥪧 𥪧 竮 䈂 𥮫 篆 築 䈧 𥲀 糒 䊠 糨 糣 紀"⟩,
  ⟨194923, 194955, 1, "𥾆 絣 䌁 緇 縂 繅 䌴 𦈨 𦉇 䍙 𦋙 罺 𦌾 羕 翺 者 𦓚 𦔣 聠 𦖨 聰 𣍟 䏕 育 脃 䐋 脾 媵 𦞧 𦞵 𣎓 𣎜 舁"⟩,
  ⟨194956, 194988, 1, "舄 辞 䑫 芑 芋 芝 劳 花 芳 芽 苦 𦬼 若 茝 荣 莭 茣 莽 菧 著 荓 菊 菌 菜 𦰶 𦵫 𦳕 䔫 蓱 蓳 蔖 𧏊 蕤"⟩,
  ⟨194989, 195021, 1, "𦼬 䕝 䕡 𦾱 𧃒 䕫 虐 虜 虧 虩 蚩 蚈 蜎 蛢 蝹 蜨 蝫 螆 䗗 蟡 蠁 䗹 衠 衣 𧙧 裗 裞 䘵 裺 㒻 𧢮 𧥦 䚾"⟩,
  ⟨195022, 195054, 1, "䛇 誠 諭 變 豕 𧲨 貫 賁 贛 起 𧼯 𠠄 跋 趼 跰 𠣞 軔 輸 𨗒 𨗭 邔 郱 鄑 𨜮 鄛 鈸 鋗 鋘 鉼 鏹 鐕 𨯺 開"⟩,
  ⟨195055, 195087, 1, "䦕 閷 𨵷 䧦 雃 嶲 霣 𩅅 𩈚 䩮 䩶 韠 𩐊 䪲 𩒖 頋 頋 頩 𩖶 飢 䬳 餩 馧 駂 駾 䯎 𩬰 鬒 鱀 鳽 䳎 䳭 鵧"⟩,
  ⟨195088, 195101, 1, "𪃎 䳸 𪄅 𪈎 𪊑 麻 䵖 黹 黾 鼅 鼏 鼖 鼻 𪘀"⟩]

/-- Ranges of the characters that are dropped. -/
def droppedRanges : List (Nat × Nat) := [
  (173, 173), (847, 847), (4447, 4448), (6068, 6069), (6155, 6159), (8203, 8203), (8288, 8292),
  (8298, 8303), (12644, 12644), (65024, 65039), (65279, 65279), (65440, 65440), (113824, 113827),
  (119155, 119162), (917760, 917999)]

/-- Ranges of the characters outside ASCII that may be given at all. -/
def admittedRanges : List (Nat × Nat) := [
  (161, 167), (169, 174), (176, 179), (181, 183), (185, 727), (734, 887), (891, 895), (902, 906),
  (908, 908), (910, 929), (931, 1327), (1329, 1366), (1369, 1418), (1421, 1423), (1425, 1479),
  (1488, 1514), (1519, 1524), (1542, 1563), (1565, 1756), (1758, 1805), (1808, 1866),
  (1869, 1969), (1984, 2042), (2045, 2093), (2096, 2110), (2112, 2139), (2142, 2142),
  (2144, 2154), (2160, 2191), (2199, 2273), (2275, 2435), (2437, 2444), (2447, 2448),
  (2451, 2472), (2474, 2480), (2482, 2482), (2486, 2489), (2492, 2500), (2503, 2504),
  (2507, 2510), (2519, 2519), (2524, 2525), (2527, 2531), (2534, 2558), (2561, 2563),
  (2565, 2570), (2575, 2576), (2579, 2600), (2602, 2608), (2610, 2611), (2613, 2614),
  (2616, 2617), (2620, 2620), (2622, 2626), (2631, 2632), (2635, 2637), (2641, 2641),
  (2649, 2652), (2654, 2654), (2662, 2678), (2689, 2691), (2693, 2701), (2703, 2705),
  (2707, 2728), (2730, 2736), (2738, 2739), (2741, 2745), (2748, 2757), (2759, 2761),
  (2763, 2765), (2768, 2768), (2784, 2787), (2790, 2801), (2809, 2815), (2817, 2819),
  (2821, 2828), (2831, 2832), (2835, 2856), (2858, 2864), (2866, 2867), (2869, 2873),
  (2876, 2884), (2887, 2888), (2891, 2893), (2901, 2903), (2908, 2909), (2911, 2915),
  (2918, 2935), (2946, 2947), (2949, 2954), (2958, 2960), (2962, 2965), (2969, 2970),
  (2972, 2972), (2974, 2975), (2979, 2980), (2984, 2986), (2990, 3001), (3006, 3010),
  (3014, 3016), (3018, 3021), (3024, 3024), (3031, 3031), (3046, 3066), (3072, 3084),
  (3086, 3088), (3090, 3112), (3114, 3129), (3132, 3140), (3142, 3144), (3146, 3149),
  (3157, 3158), (3160, 3162), (3164, 3165), (3168, 3171), (3174, 3183), (3191, 3212),
  (3214, 3216), (3218, 3240), (3242, 3251), (3253, 3257), (3260, 3268), (3270, 3272),
  (3274, 3277), (3285, 3286), (3292, 3294), (3296, 3299), (3302, 3311), (3313, 3315),
  (3328, 3340), (3342, 3344), (3346, 3396), (3398, 3400), (3402, 3407), (3412, 3427),
  (3430, 3455), (3457, 3459), (3461, 3478), (3482, 3505), (3507, 3515), (3517, 3517),
  (3520, 3526), (3530, 3530), (3535, 3540), (3542, 3542), (3544, 3551), (3558, 3567),
  (3570, 3572), (3585, 3642), (3647, 3675), (3713, 3714), (3716, 3716), (3718, 3722),
  (3724, 3747), (3749, 3749), (3751, 3773), (3776, 3780), (3782, 3782), (3784, 3790),
  (3792, 3801), (3804, 3807), (3840, 3911), (3913, 3948), (3953, 3991), (3993, 4028),
  (4030, 4044), (4046, 4058), (4096, 4293), (4295, 4295), (4301, 4301), (4304, 4680),
  (4682, 4685), (4688, 4694), (4696, 4696), (4698, 4701), (4704, 4744), (4746, 4749),
  (4752, 4784), (4786, 4789), (4792, 4798), (4800, 4800), (4802, 4805), (4808, 4822),
  (4824, 4880), (4882, 4885), (4888, 4954), (4957, 4988), (4992, 5017), (5024, 5109),
  (5112, 5117), (5120, 5759), (5761, 5788), (5792, 5880), (5888, 5909), (5919, 5942),
  (5952, 5971), (5984, 5996), (5998, 6000), (6002, 6003), (6016, 6109), (6112, 6121),
  (6128, 6137), (6144, 6169), (6176, 6264), (6272, 6314), (6320, 6389), (6400, 6430),
  (6432, 6443), (6448, 6459), (6464, 6464), (6468, 6509), (6512, 6516), (6528, 6571),
  (6576, 6601), (6608, 6618), (6622, 6683), (6686, 6750), (6752, 6780), (6783, 6793),
  (6800, 6809), (6816, 6829), (6832, 6877), (6880, 6891), (6912, 6988), (6990, 7155),
  (7164, 7223), (7227, 7241), (7245, 7306), (7312, 7354), (7357, 7367), (7376, 7418),
  (7424, 7957), (7960, 7965), (7968, 8005), (8008, 8013), (8016, 8023), (8025, 8025),
  (8027, 8027), (8029, 8029), (8031, 8061), (8064, 8116), (8118, 8124), (8126, 8126),
  (8130, 8132), (8134, 8140), (8144, 8147), (8150, 8155), (8160, 8172), (8175, 8175),
  (8178, 8180), (8182, 8188), (8203, 8205), (8208, 8214), (8216, 8227), (8231, 8231),
  (8240, 8253), (8255, 8286), (8288, 8292), (8298, 8305), (8308, 8334), (8336, 8348),
  (8352, 8385), (8400, 8432), (8448, 8587), (8592, 9257), (9280, 9290), (9312, 9351),
  (9372, 11123), (11126, 11507), (11513, 11557), (11559, 11559), (11565, 11565), (11568, 11623),
  (11631, 11632), (11647, 11670), (11680, 11686), (11688, 11694), (11696, 11702), (11704, 11710),
  (11712, 11718), (11720, 11726), (11728, 11734), (11736, 11742), (11744, 11869), (11904, 11929),
  (11931, 12019), (12032, 12245), (12289, 12351), (12353, 12438), (12441, 12442), (12445, 12543),
  (12549, 12591), (12593, 12686), (12688, 12773), (12784, 12830), (12832, 13249), (13251, 13254),
  (13256, 13271), (13273, 42124), (42128, 42182), (42192, 42539), (42560, 42743), (42752, 42972),
  (42993, 43052), (43056, 43065), (43072, 43127), (43136, 43205), (43214, 43225), (43232, 43347),
  (43359, 43388), (43392, 43469), (43471, 43481), (43486, 43518), (43520, 43574), (43584, 43597),
  (43600, 43609), (43612, 43714), (43739, 43766), (43777, 43782), (43785, 43790), (43793, 43798),
  (43808, 43814), (43816, 43822), (43824, 43883), (43888, 44013), (44016, 44025), (44032, 55203),
  (55216, 55238), (55243, 55291), (63744, 64109), (64112, 64217), (64256, 64262), (64275, 64279),
  (64285, 64310), (64312, 64316), (64318, 64318), (64320, 64321), (64323, 64324), (64326, 64605),
  (64612, 64975), (65008, 65017), (65020, 65041), (65043, 65048), (65056, 65071), (65073, 65096),
  (65101, 65105), (65108, 65126), (65128, 65131), (65137, 65137), (65139, 65139), (65143, 65143),
  (65145, 65145), (65147, 65147), (65149, 65149), (65151, 65276), (65279, 65279), (65281, 65470),
  (65474, 65479), (65482, 65487), (65490, 65495), (65498, 65500), (65504, 65506), (65508, 65510),
  (65512, 65518), (65536, 65547), (65549, 65574), (65576, 65594), (65596, 65597), (65599, 65613),
  (65616, 65629), (65664, 65786), (65792, 65794), (65799, 65843), (65847, 65934), (65936, 65948),
  (65952, 65952), (66000, 66045), (66176, 66204), (66208, 66256), (66272, 66299), (66304, 66339),
  (66349, 66378), (66384, 66426), (66432, 66461), (66463, 66499), (66504, 66517), (66560, 66717),
  (66720, 66729), (66736, 66771), (66776, 66811), (66816, 66855), (66864, 66915), (66927, 66938),
  (66940, 66954), (66956, 66962), (66964, 66965), (66967, 66977), (66979, 66993), (66995, 67001),
  (67003, 67004), (67008, 67059), (67072, 67382), (67392, 67413), (67424, 67431), (67456, 67461),
  (67463, 67504), (67506, 67514), (67584, 67589), (67592, 67592), (67594, 67637), (67639, 67640),
  (67644, 67644), (67647, 67669), (67671, 67742), (67751, 67759), (67808, 67826), (67828, 67829),
  (67835, 67867), (67871, 67897), (67903, 67929), (67968, 68023), (68028, 68047), (68050, 68099),
  (68101, 68102), (68108, 68115), (68117, 68119), (68121, 68149), (68152, 68154), (68159, 68168),
  (68176, 68184), (68192, 68255), (68288, 68326), (68331, 68342), (68352, 68405), (68409, 68437),
  (68440, 68466), (68472, 68497), (68505, 68508), (68521, 68527), (68608, 68680), (68736, 68786),
  (68800, 68850), (68858, 68903), (68912, 68921), (68928, 68965), (68969, 68997), (69006, 69007),
  (69216, 69246), (69248, 69289), (69291, 69293), (69296, 69297), (69314, 69319), (69328, 69336),
  (69370, 69415), (69424, 69465), (69488, 69513), (69552, 69579), (69600, 69622), (69632, 69709),
  (69714, 69749), (69759, 69820), (69822, 69826), (69840, 69864), (69872, 69881), (69888, 69940),
  (69942, 69959), (69968, 70006), (70016, 70111), (70113, 70132), (70144, 70161), (70163, 70209),
  (70272, 70278), (70280, 70280), (70282, 70285), (70287, 70301), (70303, 70313), (70320, 70378),
  (70384, 70393), (70400, 70403), (70405, 70412), (70415, 70416), (70419, 70440), (70442, 70448),
  (70450, 70451), (70453, 70457), (70459, 70468), (70471, 70472), (70475, 70477), (70480, 70480),
  (70487, 70487), (70493, 70499), (70502, 70508), (70512, 70516), (70528, 70537), (70539, 70539),
  (70542, 70542), (70544, 70581), (70583, 70592), (70594, 70594), (70597, 70597), (70599, 70602),
  (70604, 70613), (70615, 70616), (70625, 70626), (70656, 70747), (70749, 70753), (70784, 70855),
  (70864, 70873), (71040, 71093), (71096, 71133), (71168, 71236), (71248, 71257), (71264, 71276),
  (71296, 71353), (71360, 71369), (71376, 71395), (71424, 71450), (71453, 71467), (71472, 71494),
  (71680, 71739), (71840, 71922), (71935, 71942), (71945, 71945), (71948, 71955), (71957, 71958),
  (71960, 71989), (71991, 71992), (71995, 72006), (72016, 72025), (72096, 72103), (72106, 72151),
  (72154, 72164), (72192, 72263), (72272, 72354), (72368, 72440), (72448, 72457), (72544, 72551),
  (72640, 72673), (72688, 72697), (72704, 72712), (72714, 72758), (72760, 72773), (72784, 72812),
  (72816, 72847), (72850, 72871), (72873, 72886), (72960, 72966), (72968, 72969), (72971, 73014),
  (73018, 73018), (73020, 73021), (73023, 73031), (73040, 73049), (73056, 73061), (73063, 73064),
  (73066, 73102), (73104, 73105), (73107, 73112), (73120, 73129), (73136, 73179), (73184, 73193),
  (73440, 73464), (73472, 73488), (73490, 73530), (73534, 73562), (73648, 73648), (73664, 73713),
  (73727, 74649), (74752, 74862), (74864, 74868), (74880, 75075), (77712, 77810), (77824, 78895),
  (78912, 78933), (78944, 82938), (82944, 83526), (90368, 90425), (92160, 92728), (92736, 92766),
  (92768, 92777), (92782, 92862), (92864, 92873), (92880, 92909), (92912, 92917), (92928, 92997),
  (93008, 93017), (93019, 93025), (93027, 93047), (93053, 93071), (93504, 93561), (93760, 93850),
  (93856, 93880), (93883, 93907), (93952, 94026), (94031, 94087), (94095, 94111), (94176, 94180),
  (94192, 94198), (94208, 101589), (101631, 101662), (101760, 101874), (110576, 110579),
  (110581, 110587), (110589, 110590), (110592, 110882), (110898, 110898), (110928, 110930),
  (110933, 110933), (110948, 110951), (110960, 111355), (113664, 113770), (113776, 113788),
  (113792, 113800), (113808, 113817), (113820, 113827), (117760, 118012), (118016, 118451),
  (118458, 118480), (118496, 118512), (118528, 118573), (118576, 118598), (118608, 118723),
  (118784, 119029), (119040, 119078), (119081, 119274), (119296, 119365), (119488, 119507),
  (119520, 119539), (119552, 119638), (119648, 119672), (119808, 119892), (119894, 119964),
  (119966, 119967), (119970, 119970), (119973, 119974), (119977, 119980), (119982, 119993),
  (119995, 119995), (119997, 120003), (120005, 120069), (120071, 120074), (120077, 120084),
  (120086, 120092), (120094, 120121), (120123, 120126), (120128, 120132), (120134, 120134),
  (120138, 120144), (120146, 120485), (120488, 120779), (120782, 121483), (121499, 121503),
  (121505, 121519), (122624, 122654), (122661, 122666), (122880, 122886), (122888, 122904),
  (122907, 122913), (122915, 122916), (122918, 122922), (122928, 122989), (123023, 123023),
  (123136, 123180), (123184, 123197), (123200, 123209), (123214, 123215), (123536, 123566),
  (123584, 123641), (123647, 123647), (124112, 124153), (124368, 124410), (124415, 124415),
  (124608, 124638), (124640, 124661), (124670, 124671), (124896, 124902), (124904, 124907),
  (124909, 124910), (124912, 124926), (124928, 125124), (125127, 125142), (125184, 125259),
  (125264, 125273), (125278, 125279), (126065, 126132), (126209, 126269), (126464, 126467),
  (126469, 126495), (126497, 126498), (126500, 126500), (126503, 126503), (126505, 126514),
  (126516, 126519), (126521, 126521), (126523, 126523), (126530, 126530), (126535, 126535),
  (126537, 126537), (126539, 126539), (126541, 126543), (126545, 126546), (126548, 126548),
  (126551, 126551), (126553, 126553), (126555, 126555), (126557, 126557), (126559, 126559),
  (126561, 126562), (126564, 126564), (126567, 126570), (126572, 126578), (126580, 126583),
  (126585, 126588), (126590, 126590), (126592, 126601), (126603, 126619), (126625, 126627),
  (126629, 126633), (126635, 126651), (126704, 126705), (126976, 127019), (127024, 127123),
  (127136, 127150), (127153, 127167), (127169, 127183), (127185, 127221), (127233, 127405),
  (127462, 127490), (127504, 127547), (127552, 127560), (127568, 127569), (127584, 127589),
  (127744, 128728), (128732, 128748), (128752, 128764), (128768, 128985), (128992, 129003),
  (129008, 129008), (129024, 129035), (129040, 129095), (129104, 129113), (129120, 129159),
  (129168, 129197), (129200, 129211), (129216, 129217), (129232, 129240), (129280, 129623),
  (129632, 129645), (129648, 129660), (129664, 129674), (129678, 129734), (129736, 129736),
  (129741, 129756), (129759, 129770), (129775, 129784), (129792, 129938), (129940, 130042),
  (131072, 173791), (173824, 178205), (178208, 183981), (183984, 191456), (191472, 192093),
  (194560, 195101), (196608, 201546), (201552, 210041), (917760, 917999)]

end Flotilla.Url.Domain
