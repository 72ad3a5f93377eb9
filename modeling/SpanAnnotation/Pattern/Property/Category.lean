import SpanAnnotation.Pattern.CharSet
import SpanAnnotation.Pattern.Property.CategoryTables

/-!
General categories of characters under their long and short names, and the groups of categories
that have a name of their own.
-/

set_option autoImplicit false

namespace SpanAnnotation.Pattern

def lookUp {α : Type} (tables : List (List String × α)) (name : String) : Option α :=
  (tables.find? fun entry => entry.1.contains name).map Prod.snd

namespace Category

def capitals : CharSet := .ofStrides uppercaseLetter

def smallLetters : CharSet := .ofStrides lowercaseLetter

def titleLetters : CharSet := .ofStrides titlecaseLetter

def modifierLetters : CharSet := .ofStrides modifierLetter

def otherLetters : CharSet := .ofStrides otherLetter

def nonspacingMarks : CharSet := .ofStrides nonspacingMark

def spacingMarks : CharSet := .ofStrides spacingMark

def enclosingMarks : CharSet := .ofStrides enclosingMark

def decimalDigits : CharSet := .ofStrides decimalNumber

def letterNumbers : CharSet := .ofStrides letterNumber

def otherNumbers : CharSet := .ofStrides otherNumber

def connectors : CharSet := .ofStrides connectorPunctuation

def openMarks : CharSet := .ofStrides openPunctuation

def closeMarks : CharSet := .ofStrides closePunctuation

def initialQuotes : CharSet := .ofStrides initialPunctuation

def finalQuotes : CharSet := .ofStrides finalPunctuation

def mathSymbols : CharSet := .ofStrides mathSymbol

def modifierSymbols : CharSet := .ofStrides modifierSymbol

def lineSeparators : CharSet := .ofStrides lineSeparator

def paragraphSeparators : CharSet := .ofStrides paragraphSeparator

def controls : CharSet := .ofStrides control

def formats : CharSet := .ofStrides format

def privateUses : CharSet := .ofStrides privateUse

def categories : List (List String × CharSet) :=
  [(["uppercaseletter", "lu"], capitals), (["lowercaseletter", "ll"], smallLetters),
   (["titlecaseletter", "lt"], titleLetters), (["modifierletter", "lm"], modifierLetters),
   (["otherletter", "lo"], otherLetters), (["nonspacingmark", "mn"], nonspacingMarks),
   (["spacingmark", "mc"], spacingMarks), (["enclosingmark", "me"], enclosingMarks),
   (["decimalnumber", "nd", "digit"], decimalDigits), (["letternumber", "nl"], letterNumbers),
   (["othernumber", "no"], otherNumbers), (["connectorpunctuation", "pc"], connectors),
   (["dashpunctuation", "pd"], .ofStrides dashPunctuation), (["openpunctuation", "ps"], openMarks),
   (["closepunctuation", "pe"], closeMarks), (["initialpunctuation", "pi"], initialQuotes),
   (["finalpunctuation", "pf"], finalQuotes),
   (["otherpunctuation", "po"], .ofStrides otherPunctuation), (["mathsymbol", "sm"], mathSymbols),
   (["currencysymbol", "sc"], .ofStrides currencySymbol),
   (["modifiersymbol", "sk"], modifierSymbols), (["othersymbol", "so"], .ofStrides otherSymbol),
   (["spaceseparator", "zs"], .ofStrides spaceSeparator),
   (["lineseparator", "zl"], lineSeparators), (["paragraphseparator", "zp"], paragraphSeparators),
   (["control", "cc", "cntrl"], controls), (["format", "cf"], formats),
   (["privateuse", "co"], privateUses)]

def casedLetters : CharSet := .unions [capitals, smallLetters, titleLetters]

def letters : CharSet := .unions [casedLetters, modifierLetters, otherLetters]

def marks : CharSet := .unions [nonspacingMarks, spacingMarks, enclosingMarks]

def numbers : CharSet := .unions [decimalDigits, letterNumbers, otherNumbers]

def punctuation : CharSet :=
  .unions [connectors, .ofStrides dashPunctuation, openMarks, closeMarks, initialQuotes,
    finalQuotes, .ofStrides otherPunctuation]

def symbols : CharSet :=
  .unions [mathSymbols, .ofStrides currencySymbol, modifierSymbols, .ofStrides otherSymbol]

def separators : CharSet :=
  .unions [.ofStrides spaceSeparator, lineSeparators, paragraphSeparators]

def assigned : CharSet := .unions (categories.map Prod.snd)

def unassigned : CharSet := assigned.complement

def groups : List (List String × CharSet) :=
  [(["casedletter", "lc"], casedLetters), (["letter", "l"], letters),
   (["mark", "m", "combiningmark"], marks), (["number", "n"], numbers),
   (["punctuation", "p", "punct"], punctuation), (["symbol", "s"], symbols),
   (["separator", "z"], separators),
   (["other", "c"], .unions [controls, formats, privateUses, unassigned]),
   (["unassigned", "cn"], unassigned), (["assigned"], assigned), (["any"], .range 0 lastCode),
   (["ascii"], .range 0 0x7F)]

def named? (name : String) : Option CharSet := lookUp (categories ++ groups) name

end Category

end SpanAnnotation.Pattern
