import Fulfilment.Domain.Error
import Fulfilment.Text.Blank

/-!
Codes name tenants, sellers, hubs and SKUs. A code is the trimmed text it was given, and a
text that trims to nothing is refused, naming the kind of code.
-/

namespace Fulfilment

/-- The four kinds of code. -/
inductive CodeKind where
  | tenant
  | seller
  | hub
  | sku
  deriving DecidableEq, Repr

def CodeKind.typeName : CodeKind → String
  | .tenant => "TenantId"
  | .seller => "SellerId"
  | .hub => "HubCode"
  | .sku => "SkuCode"

/-- A code of kind `k`: trimmed, never empty. -/
@[ext] structure Code (k : CodeKind) where
  text : String
  trimmed : Text.trimBlank text = text
  nonempty : text.isEmpty = false

instance (k : CodeKind) : DecidableEq (Code k) := fun a b =>
  if h : a.text = b.text then isTrue (Code.ext h) else isFalse fun e => h (by rw [e])

instance (k : CodeKind) : Repr (Code k) := ⟨fun c _ => repr c.text⟩

abbrev TenantId := Code .tenant
abbrev SellerId := Code .seller
abbrev HubCode := Code .hub
abbrev SkuCode := Code .sku

/-- The code of a text: trimmed, refused when blank. -/
def Code.make (k : CodeKind) (s : String) : Except DomainError (Code k) :=
  if h : (Text.trimBlank s).isEmpty then .error (.invalidId (k.typeName ++ " cannot be blank"))
  else .ok ⟨Text.trimBlank s, Text.trimBlank_trimBlank s, Bool.eq_false_iff.2 h⟩

theorem Code.make_text {k : CodeKind} (c : Code k) : Code.make k c.text = .ok c := by
  have blank : ¬(Text.trimBlank c.text).isEmpty = true := by simp [c.trimmed, c.nonempty]
  rw [Code.make, dif_neg blank]
  exact congrArg Except.ok (Code.ext c.trimmed)

end Fulfilment
