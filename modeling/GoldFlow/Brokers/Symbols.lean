import GoldFlow.Data.UpperCase
import GoldFlow.Domain.Models

/-! # Symbol resolution -/

namespace GoldFlow

/-- `text.upper()` -/
def upper (text : String) : String := String.ofList (text.toList.flatMap Data.upperCharacter)

/-- `[\s/_-]` -/
def isSeparator (character : Char) : Bool :=
  isSpace character || character == '/' || character == '_' || character == '-'

/-- `re.sub(r"[\s/_-]", "", text)` -/
def compact (text : String) : String := String.ofList (text.toList.filter (!isSeparator ·))

namespace Symbols

def symbolError (message : String) : PyError := .broker .symbolResolution message

/-- `canonicalize_symbol` -/
def canonicalizeSymbol (value : String) : Except PyError String :=
  let normalized := upper (compact value)
  let canonical := if normalized = "GOLD" then "XAUUSD" else normalized
  if canonical = "" then .error (symbolError "canonical symbol is empty") else .ok canonical

/-- `_KNOWN_EXACT_ALIASES` -/
def knownExactAliases (canonical : String) : List String :=
  if canonical = "XAUUSD" then ["GOLD", "XAUUSDM", "XAUUSDC", "XAUUSD247M", "XAUUSD.PRO"] else []

/-- `[A-Z0-9.]` -/
def isSuffixCharacter (character : Char) : Bool :=
  ('A' ≤ character && character ≤ 'Z') || character.isDigit || character == '.'

def score (spec : SymbolSpecification) (canonical : String) (aliases : List String) : Option Nat :=
  let name := upper spec.name
  let compactName := (compact name).toList
  let begins := canonical.toList.isPrefixOf compactName
  if name = canonical then some 400
  else if name ∈ aliases then some 350
  else if (upper spec.baseCurrency).toList = canonical.toList.take 3 ∧
      (upper spec.quoteCurrency).toList = canonical.toList.drop 3 then
    some (if begins then 310 else 300)
  -- the fallback allows broker suffixes, and nothing else
  else if begins && (compactName.drop canonical.length).all isSuffixCharacter then some 200
  else none

/-- `resolve_symbol`, without additional aliases. -/
def resolveSymbol (canonicalSymbol : String) (symbols : List SymbolSpecification) :
    Except PyError SymbolSpecification := do
  let canonical ← canonicalizeSymbol canonicalSymbol
  let ranked := (symbols.filter (·.tradeEnabled)).filterMap fun spec =>
    (score spec canonical (knownExactAliases canonical)).map (·, spec)
  match (ranked.map (·.1)).max? with
  | none => .error (symbolError ("no tradeable broker symbol resolves to " ++ canonical))
  | some highest =>
    match (ranked.filter (·.1 == highest)).map (·.2) with
    | [winner] => pure winner
    | winners =>
      .error (symbolError ("ambiguous broker symbols for " ++ canonical ++ ": " ++
        ", ".intercalate ((winners.map (·.name)).mergeSort fun left right => decide (left ≤ right))))

end Symbols

end GoldFlow
