import ManifestLint.Proofs.SourceOrder
import ManifestLint.Proofs.Views

namespace ManifestLint.Rule.NestedDeclarations

open Token Stream Declaration

/-- The token at `i` is `define`, or `class` and the next significant token is no brace. -/
def Declares (tokens : List Token) (i : Nat) : Prop :=
  kindAt tokens i = some .defineWord ∨ kindAt tokens i = some .classWord ∧
    ∀ j ∈ nextSignificant tokens i, kindAt tokens j ≠ some .leftBrace

instance (tokens : List Token) (i : Nat) : Decidable (Declares tokens i) :=
  inferInstanceAs (Decidable (_ ∨ _ ∧ ∀ j ∈ nextSignificant tokens i, _))

def message : Declaration.Kind → String
  | .classDecl => "class defined inside a class"
  | .definedType => "define defined inside a class"

def reportedIn (tokens : List Token) (d : Declaration) : List (Token × Nat) :=
  tokens.zipIdx.filter fun p ↦ d.start < p.2 ∧ p.2 ≤ d.last ∧ Declares tokens p.2

def reported (tokens : List Token) : List (Token × Nat) :=
  ((locate tokens).filter (·.isClass)).flatMap (reportedIn tokens)

section Walk

variable {tokens : List Token} {d : Declaration} {body i last : Nat} {t : Token}

theorem Declares.significantAt (h : Declares tokens i) : SignificantAt tokens i := by
  rcases h with h | ⟨h, _⟩
  · exact significantAt_of_kindAt h rfl
  · exact significantAt_of_kindAt h rfl

end Walk

section Count

variable {tokens : List Token} {d e : Declaration} {body i : Nat} {t : Token}

end Count

end ManifestLint.Rule.NestedDeclarations
