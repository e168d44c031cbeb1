import Signpost.Unicode.Property
import Signpost.Unicode.Script

/-!
# Looking properties up by name

A name is compared without regard to case, blanks, underscores, dashes and a leading `is`. A bare
name is that of a binary property, a general category or a script; a name with a value asks for a
general category, a script or a script extension.
-/

namespace Signpost.Unicode.PropertyName

/-- The name in the form in which names are compared. -/
def normalize (name : String) : String :=
  let lower := (name.toList.filter fun c =>
    c.toNat < 128 && c != ' ' && c != '_' && c != '-').map Char.toLower
  match name.toList with
  | a :: b :: _ =>
    if (a = 'i' ∨ a = 'I') ∧ (b = 's' ∨ b = 'S') then
      let bare := lower.drop 2
      if bare == ['c'] then "isc" else String.ofList bare
    else String.ofList lower
  | _ => String.ofList lower

/-- The general categories, single and grouped, with their names. -/
def categories : List (List String × List Category) :=
  [(["c", "other"], Category.others),
    (["cc", "control", "cntrl"], [.control]),
    (["cf", "format"], [.format]),
    (["cn", "unassigned"], [.unassigned]),
    (["co", "privateuse"], [.privateUse]),
    (["l", "letter"], Category.letters),
    (["lc", "casedletter"], [.lowercaseLetter, .titlecaseLetter, .uppercaseLetter]),
    (["ll", "lowercaseletter"], [.lowercaseLetter]),
    (["lm", "modifierletter"], [.modifierLetter]),
    (["lo", "otherletter"], [.otherLetter]),
    (["lt", "titlecaseletter"], [.titlecaseLetter]),
    (["lu", "uppercaseletter"], [.uppercaseLetter]),
    (["m", "mark", "combiningmark"], Category.marks),
    (["mc", "spacingmark"], [.spacingMark]),
    (["me", "enclosingmark"], [.enclosingMark]),
    (["mn", "nonspacingmark"], [.nonspacingMark]),
    (["n", "number"], Category.numbers),
    (["nd", "decimalnumber", "digit"], [.decimalNumber]),
    (["nl", "letternumber"], [.letterNumber]),
    (["no", "othernumber"], [.otherNumber]),
    (["p", "punctuation", "punct"], Category.punctuation),
    (["pc", "connectorpunctuation"], [.connectorPunctuation]),
    (["pd", "dashpunctuation"], [.dashPunctuation]),
    (["pe", "closepunctuation"], [.closePunctuation]),
    (["pf", "finalpunctuation"], [.finalPunctuation]),
    (["pi", "initialpunctuation"], [.initialPunctuation]),
    (["po", "otherpunctuation"], [.otherPunctuation]),
    (["ps", "openpunctuation"], [.openPunctuation]),
    (["s", "symbol"], Category.symbols),
    (["sc", "currencysymbol"], [.currencySymbol]),
    (["sk", "modifiersymbol"], [.modifierSymbol]),
    (["sm", "mathsymbol"], [.mathSymbol]),
    (["so", "othersymbol"], [.otherSymbol]),
    (["z", "separator"], Category.separators),
    (["zl", "lineseparator"], [.lineSeparator]),
    (["zp", "paragraphseparator"], [.paragraphSeparator]),
    (["zs", "spaceseparator"], [.spaceSeparator])]

/-- The characters of the general category with the normalized name. -/
def category? (name : String) : Option CharSet :=
  match name with
  | "any" => some CharSet.full
  | "ascii" => some (CharSet.range 0 0x7F)
  | "assigned" => some (Category.setOf [.unassigned]).complement
  | _ => (categories.find? (·.1.contains name)).map fun entry => Category.setOf entry.2

/-- The characters with the binary property of the normalized name. -/
def binary? (name : String) : Option CharSet :=
  (Property.all.find? fun p => (p.names.map normalize).contains name).map Property.set

/-- The code of the script with the normalized name. -/
def script? (name : String) : Option String :=
  (Script.names.find? fun entry =>
    normalize entry.1 == name || (entry.2.map normalize).contains name).map (·.1)

/-- The characters that a bare name stands for. -/
def named? (name : String) : Option CharSet :=
  let key := normalize name
  let plain := (category? key).or ((script? key).map Script.setOf)
  if key == "cf" || key == "sc" || key == "lc" then plain else (binary? key).or plain

/-- The characters for which the property of the first name has the value of the second. -/
def valued? (name value : String) : Option CharSet :=
  let key := normalize value
  match normalize name with
  | "gc" | "generalcategory" => category? key
  | "sc" | "script" => (script? key).map Script.setOf
  | "scx" | "scriptextensions" => (script? key).map Script.extendedSetOf
  | _ => none

end Signpost.Unicode.PropertyName
