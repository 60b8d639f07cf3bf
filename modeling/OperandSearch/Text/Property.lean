import OperandSearch.Text.CharSet
import OperandSearch.Text.Numeral
import OperandSearch.Text.Script

/-!
# Properties of characters by name

Sets of characters that are known by a name: general categories and their groups, scripts,
and properties that a character has or lacks.  Names are told apart by their letters and
digits alone, in either case and with or without `is` in front.

For ASCII every set is exact.  Beyond it categories, scripts and blanks are exact, and a
property that has no table of its own is read off the categories that make up most of it.
-/

namespace OperandSearch
namespace Text
namespace Property

/-! ## Names -/

/-- The letters and digits of a name, in lower case and without `is` in front.  The name of
one property starts with these letters itself. -/
def plainName (written : List Char) : String :=
  let lower := written.map Char.toLower
  let (isMarked, rest) := match lower with
    | 'i' :: 's' :: rest => (true, rest)
    | _ => (false, lower)
  let name := rest.filter fun c => c.toNat < 0x80 && c != ' ' && c != '_' && c != '-'
  if isMarked ∧ name = ['c'] then "isc" else String.ofList name

/-- The entry of a table that has a name among its names. -/
def named? {α : Type} (table : List (List String × α)) (name : String) : Option α :=
  (table.find? fun entry => entry.1.contains name).map Prod.snd

/-! ## General categories -/

/-- The categories of letters. -/
def letters : List Category :=
  [.uppercaseLetter, .lowercaseLetter, .titlecaseLetter, .modifierLetter, .otherLetter]

/-- The categories of marks. -/
def marks : List Category :=
  [.nonspacingMark, .spacingMark, .enclosingMark]

/-- The categories of numbers. -/
def numbers : List Category :=
  [.decimalNumber, .letterNumber, .otherNumber]

/-- The categories of punctuation. -/
def punctuation : List Category :=
  [.connectorPunctuation, .dashPunctuation, .openPunctuation, .closePunctuation,
   .initialPunctuation, .finalPunctuation, .otherPunctuation]

/-- The categories of symbols. -/
def symbols : List Category :=
  [.mathSymbol, .currencySymbol, .modifierSymbol, .otherSymbol]

/-- The categories of separators. -/
def separators : List Category :=
  [.spaceSeparator, .lineSeparator, .paragraphSeparator]

/-- All characters that are assigned. -/
def assigned : CharSet :=
  .categories (letters ++ marks ++ numbers ++ punctuation ++ symbols ++ separators ++
    [.control, .format, .privateUse])

/-- The categories by name, and the groups they form. -/
def categories : List (List String × CharSet) :=
  [(["any"], .compl .nothing), (["assigned"], assigned),
   (["ascii"], .span '\x00' '\x7f'), (["cn", "unassigned"], .compl assigned),
   (["c", "other"], .union (.compl assigned) (.categories [.control, .format, .privateUse])),
   (["cc", "control", "cntrl"], .category .control), (["cf", "format"], .category .format),
   (["co", "privateuse"], .category .privateUse),
   (["l", "letter"], .categories letters),
   (["lc", "casedletter"],
    .categories [.uppercaseLetter, .lowercaseLetter, .titlecaseLetter]),
   (["lu", "uppercaseletter"], .category .uppercaseLetter),
   (["ll", "lowercaseletter"], .category .lowercaseLetter),
   (["lt", "titlecaseletter"], .category .titlecaseLetter),
   (["lm", "modifierletter"], .category .modifierLetter),
   (["lo", "otherletter"], .category .otherLetter),
   (["m", "mark", "combiningmark"], .categories marks),
   (["mn", "nonspacingmark"], .category .nonspacingMark),
   (["mc", "spacingmark"], .category .spacingMark),
   (["me", "enclosingmark"], .category .enclosingMark),
   (["n", "number"], .categories numbers),
   (["nd", "decimalnumber", "digit"], .digit),
   (["nl", "letternumber"], .category .letterNumber),
   (["no", "othernumber"], .category .otherNumber),
   (["p", "punctuation", "punct"], .categories punctuation),
   (["pc", "connectorpunctuation"], .category .connectorPunctuation),
   (["pd", "dashpunctuation"], .category .dashPunctuation),
   (["ps", "openpunctuation"], .category .openPunctuation),
   (["pe", "closepunctuation"], .category .closePunctuation),
   (["pi", "initialpunctuation"], .category .initialPunctuation),
   (["pf", "finalpunctuation"], .category .finalPunctuation),
   (["po", "otherpunctuation"], .category .otherPunctuation),
   (["s", "symbol"], .categories symbols),
   (["sm", "mathsymbol"], .category .mathSymbol),
   (["sc", "currencysymbol"], .category .currencySymbol),
   (["sk", "modifiersymbol"], .category .modifierSymbol),
   (["so", "othersymbol"], .category .otherSymbol),
   (["z", "separator"], .categories separators),
   (["zs", "spaceseparator"], .category .spaceSeparator),
   (["zl", "lineseparator"], .category .lineSeparator),
   (["zp", "paragraphseparator"], .category .paragraphSeparator)]

/-! ## Properties that a character has or lacks -/

/-- Properties of few characters, as runs of code points. -/
def tables : List (List String × List (Nat × Nat)) :=
  [(["asciihexdigit", "ahex"], [(0x30, 0x39), (0x41, 0x46), (0x61, 0x66)]),
   (["bidicontrol", "bidic"],
     [(0x61C, 0x61C), (0x200E, 0x200F), (0x202A, 0x202E), (0x2066, 0x2069)]),
   (["dash"],
     [(0x2D, 0x2D), (0x58A, 0x58A), (0x5BE, 0x5BE), (0x1400, 0x1400), (0x1806, 0x1806),
      (0x2010, 0x2015), (0x2053, 0x2053), (0x207B, 0x207B), (0x208B, 0x208B), (0x2212, 0x2212),
      (0x2E17, 0x2E17), (0x2E1A, 0x2E1A), (0x2E3A, 0x2E3B), (0x2E40, 0x2E40), (0x2E5D, 0x2E5D),
      (0x301C, 0x301C), (0x3030, 0x3030), (0x30A0, 0x30A0), (0xFE31, 0xFE32), (0xFE58, 0xFE58),
      (0xFE63, 0xFE63), (0xFF0D, 0xFF0D), (0x10D6E, 0x10D6E), (0x10EAD, 0x10EAD)]),
   (["defaultignorablecodepoint", "di"],
     [(0xAD, 0xAD), (0x34F, 0x34F), (0x61C, 0x61C), (0x115F, 0x1160), (0x17B4, 0x17B5),
      (0x180B, 0x180F), (0x200B, 0x200F), (0x202A, 0x202E), (0x2060, 0x206F), (0x3164, 0x3164),
      (0xFE00, 0xFE0F), (0xFEFF, 0xFEFF), (0xFFA0, 0xFFA0), (0xFFF0, 0xFFF8), (0x1BCA0, 0x1BCA3),
      (0x1D173, 0x1D17A), (0xE0000, 0xE0FFF)]),
   (["deprecated", "dep"],
     [(0x149, 0x149), (0x673, 0x673), (0xF77, 0xF77), (0xF79, 0xF79), (0x17A3, 0x17A4),
      (0x206A, 0x206F), (0x2329, 0x232A), (0xE0001, 0xE0001)]),
   (["emojicomponent", "ecomp"],
     [(0x23, 0x23), (0x2A, 0x2A), (0x30, 0x39), (0x200D, 0x200D), (0x20E3, 0x20E3),
      (0xFE0F, 0xFE0F), (0x1F1E6, 0x1F1FF), (0x1F3FB, 0x1F3FF), (0x1F9B0, 0x1F9B3),
      (0xE0020, 0xE007F)]),
   (["emojimodifier", "emod"], [(0x1F3FB, 0x1F3FF)]),
   (["emojimodifierbase", "ebase"],
     [(0x261D, 0x261D), (0x26F9, 0x26F9), (0x270A, 0x270D), (0x1F385, 0x1F385),
      (0x1F3C2, 0x1F3C4), (0x1F3C7, 0x1F3C7), (0x1F3CA, 0x1F3CC), (0x1F442, 0x1F443),
      (0x1F446, 0x1F450), (0x1F466, 0x1F478), (0x1F47C, 0x1F47C), (0x1F481, 0x1F483),
      (0x1F485, 0x1F487), (0x1F48F, 0x1F48F), (0x1F491, 0x1F491), (0x1F4AA, 0x1F4AA),
      (0x1F574, 0x1F575), (0x1F57A, 0x1F57A), (0x1F590, 0x1F590), (0x1F595, 0x1F596),
      (0x1F645, 0x1F647), (0x1F64B, 0x1F64F), (0x1F6A3, 0x1F6A3), (0x1F6B4, 0x1F6B6),
      (0x1F6C0, 0x1F6C0), (0x1F6CC, 0x1F6CC), (0x1F90C, 0x1F90C), (0x1F90F, 0x1F90F),
      (0x1F918, 0x1F91F), (0x1F926, 0x1F926), (0x1F930, 0x1F939), (0x1F93C, 0x1F93E),
      (0x1F977, 0x1F977), (0x1F9B5, 0x1F9B6), (0x1F9B8, 0x1F9B9), (0x1F9BB, 0x1F9BB),
      (0x1F9CD, 0x1F9CF), (0x1F9D1, 0x1F9DD), (0x1FAC3, 0x1FAC5), (0x1FAF0, 0x1FAF8)]),
   (["extender", "ext"],
     [(0xB7, 0xB7), (0x2D0, 0x2D1), (0x640, 0x640), (0x7FA, 0x7FA), (0xA71, 0xA71),
      (0xAFB, 0xAFB), (0xB55, 0xB55), (0xE46, 0xE46), (0xEC6, 0xEC6), (0x180A, 0x180A),
      (0x1843, 0x1843), (0x1AA7, 0x1AA7), (0x1C36, 0x1C36), (0x1C7B, 0x1C7B), (0x3005, 0x3005),
      (0x3031, 0x3035), (0x309D, 0x309E), (0x30FC, 0x30FE), (0xA015, 0xA015), (0xA60C, 0xA60C),
      (0xA9CF, 0xA9CF), (0xA9E6, 0xA9E6), (0xAA70, 0xAA70), (0xAADD, 0xAADD), (0xAAF3, 0xAAF4),
      (0xFF70, 0xFF70), (0x10781, 0x10782), (0x10D4E, 0x10D4E), (0x10D6A, 0x10D6A),
      (0x10D6F, 0x10D6F), (0x11237, 0x11237), (0x1135D, 0x1135D), (0x113D2, 0x113D3),
      (0x115C6, 0x115C8), (0x11A98, 0x11A98), (0x11DD9, 0x11DD9), (0x16B42, 0x16B43),
      (0x16FE0, 0x16FE1), (0x16FE3, 0x16FE3), (0x16FF2, 0x16FF3), (0x1E13C, 0x1E13D),
      (0x1E5EF, 0x1E5EF), (0x1E944, 0x1E946)]),
   (["hexdigit", "hex"],
     [(0x30, 0x39), (0x41, 0x46), (0x61, 0x66), (0xFF10, 0xFF19), (0xFF21, 0xFF26),
      (0xFF41, 0xFF46)]),
   (["hyphen"],
     [(0x2D, 0x2D), (0xAD, 0xAD), (0x58A, 0x58A), (0x1806, 0x1806), (0x2010, 0x2011),
      (0x2E17, 0x2E17), (0x30FB, 0x30FB), (0xFE63, 0xFE63), (0xFF0D, 0xFF0D), (0xFF65, 0xFF65)]),
   (["idcompatmathcontinue"],
     [(0xB2, 0xB3), (0xB9, 0xB9), (0x2070, 0x2070), (0x2074, 0x207E), (0x2080, 0x208E),
      (0x2202, 0x2202), (0x2207, 0x2207), (0x221E, 0x221E), (0x1D6C1, 0x1D6C1),
      (0x1D6DB, 0x1D6DB), (0x1D6FB, 0x1D6FB), (0x1D715, 0x1D715), (0x1D735, 0x1D735),
      (0x1D74F, 0x1D74F), (0x1D76F, 0x1D76F), (0x1D789, 0x1D789), (0x1D7A9, 0x1D7A9),
      (0x1D7C3, 0x1D7C3)]),
   (["idcompatmathstart"],
     [(0x2202, 0x2202), (0x2207, 0x2207), (0x221E, 0x221E), (0x1D6C1, 0x1D6C1),
      (0x1D6DB, 0x1D6DB), (0x1D6FB, 0x1D6FB), (0x1D715, 0x1D715), (0x1D735, 0x1D735),
      (0x1D74F, 0x1D74F), (0x1D76F, 0x1D76F), (0x1D789, 0x1D789), (0x1D7A9, 0x1D7A9),
      (0x1D7C3, 0x1D7C3)]),
   (["ideographic", "ideo"],
     [(0x3006, 0x3007), (0x3021, 0x3029), (0x3038, 0x303A), (0x3400, 0x4DBF), (0x4E00, 0x9FFF),
      (0xF900, 0xFA6D), (0xFA70, 0xFAD9), (0x16FE4, 0x16FE4), (0x16FF2, 0x16FF6),
      (0x17000, 0x18CD5), (0x18CFF, 0x18D1E), (0x18D80, 0x18DF2), (0x1B170, 0x1B2FB),
      (0x20000, 0x2A6DF), (0x2A700, 0x2B81D), (0x2B820, 0x2CEAD), (0x2CEB0, 0x2EBE0),
      (0x2EBF0, 0x2EE5D), (0x2F800, 0x2FA1D), (0x30000, 0x3134A), (0x31350, 0x33479)]),
   (["idsbinaryoperator", "idsb"], [(0x2FF0, 0x2FF1), (0x2FF4, 0x2FFD), (0x31EF, 0x31EF)]),
   (["idstrinaryoperator", "idst"], [(0x2FF2, 0x2FF3)]),
   (["idsunaryoperator", "idsu"], [(0x2FFE, 0x2FFF)]),
   (["joincontrol", "joinc"], [(0x200C, 0x200D)]),
   (["logicalorderexception", "loe"],
     [(0xE40, 0xE44), (0xEC0, 0xEC4), (0x19B5, 0x19B7), (0x19BA, 0x19BA), (0xAAB5, 0xAAB6),
      (0xAAB9, 0xAAB9), (0xAABB, 0xAABC)]),
   (["modifiercombiningmark", "mcm"],
     [(0x654, 0x655), (0x658, 0x658), (0x6DC, 0x6DC), (0x6E3, 0x6E3), (0x6E7, 0x6E8),
      (0x8CA, 0x8CB), (0x8CD, 0x8CF), (0x8D3, 0x8D3), (0x8F3, 0x8F3)]),
   (["noncharactercodepoint", "nchar"],
     [(0xFDD0, 0xFDEF), (0xFFFE, 0xFFFF), (0x1FFFE, 0x1FFFF), (0x2FFFE, 0x2FFFF),
      (0x3FFFE, 0x3FFFF), (0x4FFFE, 0x4FFFF), (0x5FFFE, 0x5FFFF), (0x6FFFE, 0x6FFFF),
      (0x7FFFE, 0x7FFFF), (0x8FFFE, 0x8FFFF), (0x9FFFE, 0x9FFFF), (0xAFFFE, 0xAFFFF),
      (0xBFFFE, 0xBFFFF), (0xCFFFE, 0xCFFFF), (0xDFFFE, 0xDFFFF), (0xEFFFE, 0xEFFFF),
      (0xFFFFE, 0xFFFFF), (0x10FFFE, 0x10FFFF)]),
   (["otherdefaultignorablecodepoint", "odi"],
     [(0x34F, 0x34F), (0x115F, 0x1160), (0x17B4, 0x17B5), (0x2065, 0x2065), (0x3164, 0x3164),
      (0xFFA0, 0xFFA0), (0xFFF0, 0xFFF8), (0xE0000, 0xE0000), (0xE0002, 0xE001F),
      (0xE0080, 0xE00FF), (0xE01F0, 0xE0FFF)]),
   (["otheridcontinue", "oidc"],
     [(0xB7, 0xB7), (0x387, 0x387), (0x1369, 0x1371), (0x19DA, 0x19DA), (0x200C, 0x200D),
      (0x30FB, 0x30FB), (0xFF65, 0xFF65)]),
   (["otheridstart", "oids"],
     [(0x1885, 0x1886), (0x2118, 0x2118), (0x212E, 0x212E), (0x309B, 0x309C)]),
   (["otheruppercase", "oupper"],
     [(0x2160, 0x216F), (0x24B6, 0x24CF), (0x1F130, 0x1F149), (0x1F150, 0x1F169),
      (0x1F170, 0x1F189)]),
   (["patternsyntax", "patsyn"],
     [(0x21, 0x2F), (0x3A, 0x40), (0x5B, 0x5E), (0x60, 0x60), (0x7B, 0x7E), (0xA1, 0xA7),
      (0xA9, 0xA9), (0xAB, 0xAC), (0xAE, 0xAE), (0xB0, 0xB1), (0xB6, 0xB6), (0xBB, 0xBB),
      (0xBF, 0xBF), (0xD7, 0xD7), (0xF7, 0xF7), (0x2010, 0x2027), (0x2030, 0x203E),
      (0x2041, 0x2053), (0x2055, 0x205E), (0x2190, 0x245F), (0x2500, 0x2775), (0x2794, 0x2BFF),
      (0x2E00, 0x2E7F), (0x3001, 0x3003), (0x3008, 0x3020), (0x3030, 0x3030), (0xFD3E, 0xFD3F),
      (0xFE45, 0xFE46)]),
   (["patternwhitespace", "patws"],
     [(0x9, 0xD), (0x20, 0x20), (0x85, 0x85), (0x200E, 0x200F), (0x2028, 0x2029)]),
   (["prependedconcatenationmark", "pcm"],
     [(0x600, 0x605), (0x6DD, 0x6DD), (0x70F, 0x70F), (0x890, 0x891), (0x8E2, 0x8E2),
      (0x110BD, 0x110BD), (0x110CD, 0x110CD)]),
   (["quotationmark", "qmark"],
     [(0x22, 0x22), (0x27, 0x27), (0xAB, 0xAB), (0xBB, 0xBB), (0x2018, 0x201F), (0x2039, 0x203A),
      (0x2E42, 0x2E42), (0x300C, 0x300F), (0x301D, 0x301F), (0xFE41, 0xFE44), (0xFF02, 0xFF02),
      (0xFF07, 0xFF07), (0xFF62, 0xFF63)]),
   (["radical"], [(0x2E80, 0x2E99), (0x2E9B, 0x2EF3), (0x2F00, 0x2FD5)]),
   (["regionalindicator", "ri"], [(0x1F1E6, 0x1F1FF)]),
   (["softdotted", "sd"],
     [(0x69, 0x6A), (0x12F, 0x12F), (0x249, 0x249), (0x268, 0x268), (0x29D, 0x29D),
      (0x2B2, 0x2B2), (0x3F3, 0x3F3), (0x456, 0x456), (0x458, 0x458), (0x1D62, 0x1D62),
      (0x1D96, 0x1D96), (0x1DA4, 0x1DA4), (0x1DA8, 0x1DA8), (0x1E2D, 0x1E2D), (0x1ECB, 0x1ECB),
      (0x2071, 0x2071), (0x2148, 0x2149), (0x2C7C, 0x2C7C), (0x1D422, 0x1D423),
      (0x1D456, 0x1D457), (0x1D48A, 0x1D48B), (0x1D4BE, 0x1D4BF), (0x1D4F2, 0x1D4F3),
      (0x1D526, 0x1D527), (0x1D55A, 0x1D55B), (0x1D58E, 0x1D58F), (0x1D5C2, 0x1D5C3),
      (0x1D5F6, 0x1D5F7), (0x1D62A, 0x1D62B), (0x1D65E, 0x1D65F), (0x1D692, 0x1D693),
      (0x1DF1A, 0x1DF1A), (0x1E04C, 0x1E04D), (0x1E068, 0x1E068)]),
   (["unifiedideograph", "uideo"],
     [(0x3400, 0x4DBF), (0x4E00, 0x9FFF), (0xFA0E, 0xFA0F), (0xFA11, 0xFA11), (0xFA13, 0xFA14),
      (0xFA1F, 0xFA1F), (0xFA21, 0xFA21), (0xFA23, 0xFA24), (0xFA27, 0xFA29), (0x20000, 0x2A6DF),
      (0x2A700, 0x2B81D), (0x2B820, 0x2CEAD), (0x2CEB0, 0x2EBE0), (0x2EBF0, 0x2EE5D),
      (0x30000, 0x3134A), (0x31350, 0x33479)]),
   (["variationselector", "vs"],
     [(0x180B, 0x180D), (0x180F, 0x180F), (0xFE00, 0xFE0F), (0xE0100, 0xE01EF)])]

/-- The characters that a name can start with. -/
def nameStart : CharSet :=
  .categories (letters ++ [.letterNumber])

/-- The characters of a name behind its start. -/
def nameRest : CharSet :=
  .union nameStart
    (.categories [.nonspacingMark, .spacingMark, .decimalNumber, .connectorPunctuation])

/-- The properties of letters and names that follow categories. -/
def ofLetters : List (List String × CharSet) :=
  let upper := CharSet.category .uppercaseLetter
  let lower := CharSet.category .lowercaseLetter
  let title := CharSet.category .titlecaseLetter
  [(["alphabetic", "alpha"], .union nameStart (.category .spacingMark)),
   (["otheralphabetic", "oalpha"], .category .spacingMark),
   (["uppercase", "upper"], upper), (["lowercase", "lower"], lower),
   (["otherlowercase", "olower"], .runs [(0xAA, 0xAA), (0xBA, 0xBA), (0x2170, 0x217F)]),
   (["cased"], .unions [upper, lower, title]),
   (["changeswhencasemapped", "cwcm"], .unions [upper, lower, title]),
   (["changeswhencasefolded", "cwcf"], .union upper title),
   (["changeswhenlowercased", "cwl"], .union upper title),
   (["changeswhennfkccasefolded", "cwkcf"], .union upper title),
   (["changeswhentitlecased", "cwt"], lower), (["changeswhenuppercased", "cwu"], lower),
   (["caseignorable", "ci"],
    .union (.spans [('\'', '\''), ('.', '.'), (':', ':')])
      (.categories [.modifierLetter, .nonspacingMark, .enclosingMark, .modifierSymbol, .format])),
   (["idstart", "ids"], nameStart), (["xidstart", "xids"], nameStart),
   (["idcontinue", "idc"], nameRest), (["xidcontinue", "xidc"], nameRest)]

/-- The properties of signs and marks that follow categories, and those of emoji. -/
def ofSigns : List (List String × CharSet) :=
  let extending := CharSet.categories [.nonspacingMark, .enclosingMark]
  let pictures := CharSet.runs [(0xA9, 0xA9), (0xAE, 0xAE), (0x2600, 0x27BF), (0x1F300, 0x1FAFF)]
  [(["whitespace", "wspace", "space"], .blank),
   (["bidimirrored", "bidim"],
    .union (.spans [('<', '<'), ('>', '>')])
      (.categories [.openPunctuation, .closePunctuation])),
   (["sentenceterminal", "sterm"], .spans [('!', '!'), ('.', '.'), ('?', '?')]),
   (["terminalpunctuation", "term"],
    .spans [('!', '!'), (',', ','), ('.', '.'), (':', ';'), ('?', '?')]),
   (["math"], .union (.span '^' '^') (.category .mathSymbol)),
   (["othermath", "omath"], .span '^' '^'),
   (["diacritic", "dia"], .union (.category .modifierSymbol) extending),
   (["graphemebase", "grbase"],
    .categories (letters ++ numbers ++ punctuation ++ symbols ++ [.spaceSeparator, .spacingMark])),
   (["graphemeextend", "grext"], extending),
   (["othergraphemeextend", "ogrext"], .runs [(0x200C, 0x200C), (0xFF9E, 0xFF9F)]),
   (["graphemelink", "grlink"], .runs [(0x94D, 0x94D), (0x9CD, 0x9CD)]),
   (["emoji"], .union (.spans [('#', '#'), ('*', '*'), ('0', '9')]) pictures),
   (["emojipresentation", "epres"], .runs [(0x1F300, 0x1FAFF)]),
   (["extendedpictographic", "extpict"], pictures)]

/-! ## Looking up -/

/-- The names of the editions of the standard in which characters were assigned. -/
def editions : List String :=
  let numbers : List (Nat × List Nat) :=
    [(1, [1]), (2, [0, 1]), (3, [0, 1, 2]), (4, [0, 1]), (5, [0, 1, 2]), (6, [0, 1, 2, 3]),
     (7, [0]), (8, [0]), (9, [0]), (10, [0]), (11, [0]), (12, [0, 1]), (13, [0]), (14, [0]),
     (15, [0, 1]), (16, [0]), (17, [0])]
  numbers.flatMap fun edition => edition.2.flatMap fun minor =>
    let major := Numeral.decimal edition.1
    let minor := Numeral.decimal minor
    [major ++ "." ++ minor, "v" ++ major ++ minor]

/-- The characters of a script. -/
def script? (name : String) : Option CharSet :=
  (Script.all.find? fun script => script.names.contains name).map fun script =>
    .runs script.runs

/-- The set of a name that stands alone. -/
def ofName? (written : List Char) : Option CharSet :=
  let name := plainName written
  ((named? tables name).map .runs).or <| (named? (ofLetters ++ ofSigns) name).or <|
    (named? categories name).or (script? name)

/-- The characters for which something has a value.  Editions of the standard are not told
apart beyond ASCII. -/
def ofValue? (written value : List Char) : Option CharSet :=
  let value := plainName value
  match plainName written with
  | "generalcategory" | "gc" => named? categories value
  | "script" | "sc" | "scriptextensions" | "scx" => script? value
  | "age" => if value ∈ editions then some assigned else none
  | _ => none

/-- What stands in front of the first occurrence of a mark, and what stands behind it. -/
def cut? (mark : List Char) : List Char → Option (List Char × List Char)
  | [] => none
  | c :: rest =>
    if mark.isPrefixOf (c :: rest) then some ([], (c :: rest).drop mark.length)
    else (cut? mark rest).map fun found => (c :: found.1, found.2)

/-- The set of a name, or of a name and a value with a sign of equality between them;
`widened` is applied before a sign of inequality takes all other characters. -/
def ofText? (widened : CharSet → CharSet) (written : List Char) : Option CharSet :=
  match cut? ['!', '='] written with
  | some (name, value) => (ofValue? name value).map fun set => .compl (widened set)
  | none =>
    (match (cut? [':'] written).or (cut? ['='] written) with
      | some (name, value) => ofValue? name value
      | none => ofName? written).map widened

end Property
end Text
end OperandSearch
