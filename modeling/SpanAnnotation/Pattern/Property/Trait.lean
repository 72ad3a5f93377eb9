import SpanAnnotation.Pattern.Property.Category
import SpanAnnotation.Pattern.Property.TraitTables
import SpanAnnotation.Text.CaseTables

/-!
Unicode properties that a character has or lacks, under their long and short names. Most follow
from the general category and a list of exceptions.
-/

set_option autoImplicit false

namespace SpanAnnotation.Pattern.Trait

open Category

def lowercase : CharSet := smallLetters.union (.ofRanges otherLowercase)

def uppercase : CharSet := capitals.union (.ofRanges otherUppercase)

def cased : CharSet := .unions [lowercase, uppercase, titleLetters]

def alphabetic : CharSet :=
  .unions [letters, letterNumbers, lowercase, uppercase, .ofRanges otherAlphabetic]

def spaces : CharSet := .ofRanges whiteSpace

def joiners : CharSet := .range 0x200C 0x200D

-- Punctuation that may stand inside a word.
def wordPunctuation : CharSet :=
  .ofCodes [0x27, 0x2E, 0x3A, 0xB7, 0x387, 0x55F, 0x5F4, 0x2018, 0x2019, 0x2024, 0x2027, 0xFE13,
    0xFE52, 0xFE55, 0xFF07, 0xFF0E, 0xFF1A]

def caseIgnorable : CharSet :=
  .unions [nonspacingMarks, enclosingMarks, formats, modifierLetters, modifierSymbols,
    wordPunctuation]

/-- Characters known to patterns that the mapping to small letters changes. -/
def changesWhenLowercased : CharSet :=
  assigned.inter ((CharSet.ofStrides Text.lowercaseShifts.domain).union (.range 0x130 0x130))

-- The letters with a capital form but no other form for titles.
def titleForms : CharSet :=
  .ofRanges [(0x1C5, 0x1C5), (0x1C8, 0x1C8), (0x1CB, 0x1CB), (0x1F2, 0x1F2), (0x10D0, 0x10FA),
    (0x10FD, 0x10FF), (0x1F88, 0x1F8F), (0x1F98, 0x1F9F), (0x1FA8, 0x1FAF), (0x1FBC, 0x1FBC),
    (0x1FCC, 0x1FCC), (0x1FFC, 0x1FFC)]

def changesWhenUppercased : CharSet := .ofStrides capitalized

def changesWhenTitlecased : CharSet :=
  (changesWhenUppercased.difference titleForms).union (.ofCodes [0x1C4, 0x1C7, 0x1CA, 0x1F1])

-- Characters that fold to several.
def longFoldings : CharSet :=
  .ofRanges [(0xDF, 0xDF), (0x130, 0x130), (0x149, 0x149), (0x587, 0x587), (0x1E9A, 0x1E9A),
    (0x1F80, 0x1F87), (0x1F90, 0x1F97), (0x1FA0, 0x1FA7), (0x1FB2, 0x1FB4), (0x1FB7, 0x1FB7),
    (0x1FC2, 0x1FC4), (0x1FC7, 0x1FC7), (0x1FF2, 0x1FF4), (0x1FF7, 0x1FF7), (0xFB00, 0xFB06),
    (0xFB13, 0xFB17)]

def changesWhenCasefolded : CharSet :=
  ((CharSet.ofStrides foldShifts.domain).difference (.ofCodes [0x1FBE, 0x1FD3, 0x1FE3])).union
    longFoldings

def graphemeExtend : CharSet :=
  .unions [nonspacingMarks, enclosingMarks, .ofRanges otherGraphemeExtend]

def graphemeBase : CharSet :=
  CharSet.complement (.unions [controls, formats, privateUses, unassigned, lineSeparators,
    paragraphSeparators, graphemeExtend])

def defaultIgnorable : CharSet :=
  CharSet.difference
    (.unions [.ofRanges otherDefaultIgnorable, formats, .ofRanges variationSelector])
    (.unions [spaces, .range 0xFFF9 0xFFFB, .range 0x13430 0x13440,
      .ofRanges prependedConcatenationMark])

def patternCodes : CharSet := .union (.ofRanges patternSyntax) (.ofRanges patternWhiteSpace)

def identifierStart : CharSet :=
  (CharSet.unions [letters, letterNumbers, .ofRanges otherIdentifierStart]).difference patternCodes

def identifierContinue : CharSet :=
  (CharSet.unions [identifierStart, nonspacingMarks, spacingMarks, decimalDigits, connectors,
    .ofRanges otherIdentifierContinue]).difference patternCodes

-- Characters whose compatibility form starts, or goes on, in a way that identifiers may not.
def unstableContinue : CharSet :=
  .ofRanges [(0x37A, 0x37A), (0x309B, 0x309C), (0xFC5E, 0xFC63), (0xFDFA, 0xFDFB),
    (0xFE70, 0xFE70), (0xFE72, 0xFE72), (0xFE74, 0xFE74), (0xFE76, 0xFE76), (0xFE78, 0xFE78),
    (0xFE7A, 0xFE7A), (0xFE7C, 0xFE7C), (0xFE7E, 0xFE7E)]

def unstableStart : CharSet :=
  .union unstableContinue (.ofRanges [(0xE33, 0xE33), (0xEB3, 0xEB3), (0xFF9E, 0xFF9F)])

-- The last two codes of every plane, and 32 more.
def noncharacters : CharSet :=
  let planes := (List.range 17).map fun plane => plane * 0x10000
  .union (.range 0xFDD0 0xFDEF)
    (.ofRanges (planes.map fun start => (start + 0xFFFE, start + 0xFFFF)))

def asciiHexDigits : CharSet := .ofRanges [(0x30, 0x39), (0x41, 0x46), (0x61, 0x66)]

def traits : List (List String × CharSet) :=
  [(["asciihexdigit", "ahex"], asciiHexDigits), (["alphabetic", "alpha"], alphabetic),
   (["bidicontrol", "bidic"], .ofRanges bidiControl),
   (["bidimirrored", "bidim"], .ofRanges bidiMirrored),
   (["caseignorable", "ci"], caseIgnorable), (["cased"], cased),
   (["changeswhencasefolded", "cwcf"], changesWhenCasefolded),
   (["changeswhencasemapped", "cwcm"],
     .unions [changesWhenLowercased, changesWhenUppercased, changesWhenTitlecased]),
   (["changeswhenlowercased", "cwl"], changesWhenLowercased),
   (["changeswhentitlecased", "cwt"], changesWhenTitlecased),
   (["changeswhenuppercased", "cwu"], changesWhenUppercased), (["dash"], .ofRanges dash),
   (["defaultignorablecodepoint", "di"], defaultIgnorable),
   (["deprecated", "dep"], .ofRanges deprecatedCode), (["diacritic", "dia"], .ofRanges diacritic),
   (["emoji"], .ofRanges emoji), (["emojicomponent", "ecomp"], .ofRanges emojiComponent),
   (["emojimodifier", "emod"], .ofRanges emojiModifier),
   (["emojimodifierbase", "ebase"], .ofRanges emojiModifierBase),
   (["emojipresentation", "epres"], .ofRanges emojiPresentation),
   (["extendedpictographic", "extpict"], .ofRanges extendedPictographic),
   (["extender", "ext"], .ofRanges extender), (["graphemebase", "grbase"], graphemeBase),
   (["graphemeextend", "grext"], graphemeExtend),
   (["graphemelink", "grlink"], .ofRanges graphemeLink), (["hexdigit", "hex"], .ofRanges hexDigit),
   (["hyphen"], .ofRanges hyphen), (["idsbinaryoperator", "idsb"], .ofRanges ideographicBinary),
   (["idstrinaryoperator", "idst"], .ofRanges ideographicTrinary),
   (["idsunaryoperator", "idsu"], .ofRanges ideographicUnary),
   (["idcompatmathcontinue"], .ofRanges compatMathContinue),
   (["idcompatmathstart"], .ofRanges compatMathStart),
   (["idcontinue", "idc"], identifierContinue), (["idstart", "ids"], identifierStart),
   (["ideographic", "ideo"], .ofRanges ideographic), (["joincontrol", "joinc"], joiners),
   (["logicalorderexception", "loe"], .ofRanges logicalOrderException),
   (["lowercase", "lower"], lowercase), (["math"], mathSymbols.union (.ofRanges otherMath)),
   (["modifiercombiningmark", "mcm"], .ofRanges modifierCombiningMark),
   (["noncharactercodepoint", "nchar"], noncharacters),
   (["otheralphabetic", "oalpha"], .ofRanges otherAlphabetic),
   (["otherdefaultignorablecodepoint", "odi"], .ofRanges otherDefaultIgnorable),
   (["othergraphemeextend", "ogrext"], .ofRanges otherGraphemeExtend),
   (["otheridcontinue", "oidc"], .ofRanges otherIdentifierContinue),
   (["otheridstart", "oids"], .ofRanges otherIdentifierStart),
   (["otherlowercase", "olower"], .ofRanges otherLowercase),
   (["othermath", "omath"], .ofRanges otherMath),
   (["otheruppercase", "oupper"], .ofRanges otherUppercase),
   (["patternsyntax", "patsyn"], .ofRanges patternSyntax),
   (["patternwhitespace", "patws"], .ofRanges patternWhiteSpace),
   (["prependedconcatenationmark", "pcm"], .ofRanges prependedConcatenationMark),
   (["quotationmark", "qmark"], .ofRanges quotationMark), (["radical"], .ofRanges radical),
   (["regionalindicator", "ri"], .ofRanges regionalIndicator),
   (["sentenceterminal", "sterm"], .ofRanges sentenceTerminal),
   (["softdotted", "sd"], .ofRanges softDotted),
   (["terminalpunctuation", "term"], .ofRanges terminalPunctuation),
   (["unifiedideograph", "uideo"], .ofRanges unifiedIdeograph),
   (["uppercase", "upper"], uppercase), (["variationselector", "vs"], .ofRanges variationSelector),
   (["whitespace", "wspace", "space"], spaces),
   (["xidcontinue", "xidc"], identifierContinue.difference unstableContinue),
   (["xidstart", "xids"], identifierStart.difference unstableStart)]

def named? (name : String) : Option CharSet := lookUp traits name

end SpanAnnotation.Pattern.Trait
