import DocumentTemplates.Error

/-!
# The bases of a template

The names of the templates that a template extends, and the digest that covers them. A base is
visited once, when its name is first met, and before the names that follow.
-/

namespace DocumentTemplates

mutual

/-- The names of the templates that a template extends, at every depth of nesting. -/
def Template.baseNames : Template → List String
  | .mk _ directives _ => Template.baseNamesOf directives

def Template.baseNamesOf : List Directive → List String
  | [] => []
  | d :: rest => Directive.baseNames d ++ Template.baseNamesOf rest

/-- The names of the templates that a directive extends: those of its nested template before its
own. -/
def Directive.baseNames : Directive → List String
  | .child _ _ _ body => Template.baseNames body
  | .glue _ _ body => Template.baseNames body
  | .extend base _ _ extra => Template.baseNames extra ++ [base]
  | _ => []

end

/-- The bases met so far with their digests, in order. One that cannot be loaded has none. -/
abbrev BaseDigests := List (String × Option String)

namespace BaseDigests

variable {m : Type → Type} [Monad m]

/-- Visits the bases with the given names, and what they extend. A chain of bases has at most
`length` links. -/
def visit (load? : String → m (Option Template)) :
    Nat → List String → BaseDigests → m BaseDigests
  | 0, _, met => return met
  | length + 1, names, met =>
    names.foldlM (fun met name => do
      if met.any (·.1 = name) then return met
      else match ← load? name with
        | some base => visit load? length base.baseNames (met ++ [(name, some base.digest)])
        | none => return met ++ [(name, none)]) met

/-- The text that names a template's own digest, and its bases with theirs. -/
def joined (own : String) (bases : BaseDigests) : String :=
  String.intercalate "<" <| own :: bases.map fun (name, digest) => name ++ "=" ++ digest.getD "?"

/-- The digest that covers a template and its bases. Without bases it is the template's own. -/
def combine (digestOf : String → String) (own : String) (bases : BaseDigests) : String :=
  if bases.isEmpty then own else digestOf (joined own bases)

end BaseDigests

end DocumentTemplates
