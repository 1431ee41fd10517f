import VenueGateway.Decimal.Reader
import VenueGateway.Failure
import VenueGateway.NameMap
import VenueGateway.Text.Blank

/-! # Fees

A venue's fees are configured as percentages and kept as fractions with 8 decimal places. They are
read once, and never asked of the venue.
-/

namespace VenueGateway

/-- The parts of a buy and of a sell order that the venue keeps. -/
structure Fees where
  buy : Decimal
  sell : Decimal
deriving DecidableEq

namespace Fees

def buyEntry : String := "buy-fee"

def sellEntry : String := "sell-fee"

/-- Why a fee cannot be used. -/
inductive Defect
  | missing (entry : String)
  | unreadable (entry percent : String) (cause : Decimal.ReadError)
  | outOfRange (entry percent : String)
deriving DecidableEq

def Defect.message : Defect → String
  | missing entry => "Missing '" ++ entry ++ "' in other config"
  | unreadable entry percent cause =>
    "Invalid '" ++ entry ++ "' value '" ++ percent ++ "': " ++ cause.message
  | outOfRange entry percent =>
    "'" ++ entry ++ "' must be between 0 and 100 percent (got " ++ percent ++ ")"

def hundred : Decimal := .ofWord false 100 (by decide)

/-- Whether an amount is a percentage: without a minus sign, and a hundred at most. -/
def isPercentage (x : Decimal) : Bool := !x.negative && x.units ≤ hundred.units

/-- The fraction of a percentage has no more than nine digits. -/
theorem hundredthTo8_le {x : Decimal} (h : isPercentage x = true) : x.hundredthTo8 ≤ Nat.pow 10 8 := by
  simp only [isPercentage, Bool.and_eq_true, Bool.not_eq_true', decide_eq_true_eq] at h
  have magnitude : x.mantissa * Nat.pow 10 (28 - x.scale) ≤ Nat.pow 10 30 := by
    have units_le := h.2
    simp only [Decimal.units, h.1, hundred, Decimal.ofWord, Bool.false_eq_true, if_false] at units_le
    exact_mod_cast units_le
  have whole : x.hundredth ≤ Nat.pow 10 28 :=
    Decimal.roundDiv_le_of_le_mul .even (by decide) (Nat.le_trans magnitude (by decide))
  exact Decimal.roundDiv_le_of_le_mul .away (by decide) (Nat.le_trans whole (by decide))

/-- A hundredth of a percentage, to 8 decimal places. -/
def fraction (x : Decimal) (h : isPercentage x = true) : Decimal :=
  ⟨false, x.hundredthTo8, 8, Nat.lt_of_le_of_lt (hundredthTo8_le h) (by decide), by decide⟩

/-- The fraction that a percentage in words means. -/
def readPercentage (entry percent : String) : Except Defect Decimal :=
  match Decimal.read (Text.trim percent) with
  | .error cause => .error (.unreadable entry percent cause)
  | .ok x =>
    if h : isPercentage x = true then .ok (fraction x h) else .error (.outOfRange entry percent)

/-- The fraction that an entry asks for. -/
def readEntry (entries : NameMap String) (entry : String) : Except Defect Decimal :=
  match entries.get? entry with
  | some percent => readPercentage entry percent
  | none => .error (.missing entry)

/-- Both fees, the buying fee first. -/
def ofEntries (entries : NameMap String) : Except Defect Fees := do
  let buy ← readEntry entries buyEntry
  let sell ← readEntry entries sellEntry
  return ⟨buy, sell⟩

def Defect.failure (defect : Defect) : Failure := .configuration defect.message

def shown (fees : Fees) : String :=
  "FeeSchedule \x7b buy: " ++ fees.buy.text ++ ", sell: " ++ fees.sell.text ++ " \x7d"

end Fees

end VenueGateway
