import Mathlib.Data.List.Basic

/-!
# Shared contracts

The vocabulary of `@wispace/contracts`: platforms, delivery outcomes and states of links.  The
tests every bot makes on optional texts are here as well.
-/

namespace WispaceBot

/-- The platforms of `PLATFORMS`. -/
inductive Platform
  | messenger
  | discord
  | zalo
  deriving DecidableEq

def Platform.name : Platform → String
  | .messenger => "messenger"
  | .discord => "discord"
  | .zalo => "zalo"

lemma Platform.name_colon_inj {p q : Platform} {a b : String}
    (h : p.name ++ ":" ++ a = q.name ++ ":" ++ b) : p = q ∧ a = b := by
  have hlist := congrArg String.toList h
  cases p <;> cases q <;> simp [Platform.name, String.ext_iff] at hlist ⊢ <;> exact hlist

/-- `OutboundDeliveryOutcome`. -/
inductive DeliveryOutcome
  | sent
  | ambiguous
  | notSent
  | rateLimited
  deriving DecidableEq

inductive PlatformLinkState
  | active
  | confirmedRevoked
  | temporarilyUnknown
  | locallyUnlinked
  deriving DecidableEq

/-! ## Texts -/

/-- The characters `String.prototype.trim` removes. -/
def isTrimmed (c : Char) : Bool :=
  [9, 10, 11, 12, 13, 0x20, 0xA0, 0x1680, 0x2028, 0x2029, 0x202F, 0x205F, 0x3000, 0xFEFF].contains
    c.toNat || decide (0x2000 ≤ c.toNat ∧ c.toNat ≤ 0x200A)

def trim (s : String) : String :=
  String.ofList (((s.toList.dropWhile isTrimmed).reverse.dropWhile isTrimmed).reverse)

/-- `!value?.trim()`. -/
def isBlank (value : Option String) : Bool :=
  (value.getD "").toList.all isTrimmed

/-- `!value` for an optional text. -/
def isFalsy (value : Option String) : Bool :=
  value.getD "" == ""

end WispaceBot
