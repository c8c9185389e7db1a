import DocumentTemplates.Yaml.Node

/-!
# YAML trees

A document with every alias replaced by what it stands for. A tree is refused if more than 128
collections are nested in it, or if it takes more aliases than a hundred for each mark of the
document; so a node cannot contain itself.
-/

namespace DocumentTemplates.Yaml

/-- A document without anchors and aliases. -/
inductive Tree where
  /-- No document at all. -/
  | void
  | scalar (tag : Option Tag) (text : String) (style : ScalarStyle)
  | sequence (tag : Option Tag) (items : List Tree)
  | mapping (tag : Option Tag) (entries : List (Tree × Tree))

namespace Tree

/-- A step of the expansion, which counts down the aliases that may still be taken. -/
abbrev Expansion := StateT Nat Option

/-- The tree of a node, in which aliases stand for the nodes that `target?` gives. At most
`depth` collections may be nested. -/
def expand (target? : Nat → Option Node) : Nat → Nat → Node → Expansion Tree
  | 0, _, _ => failure
  | steps + 1, depth, node => do
    match node with
    | .aliasOf anchor =>
      match ← get, target? anchor with
      | left + 1, some node =>
        set left
        expand target? steps depth node
      | _, _ => failure
    | .scalar _ tag text style => return .scalar tag text style
    | .sequence _ tag items =>
      match depth with
      | 0 => failure
      | depth + 1 => return .sequence tag (← items.mapM (expand target? steps depth))
    | .mapping _ tag entries =>
      match depth with
      | 0 => failure
      | depth + 1 =>
        let entries ← entries.mapM fun entry => do
          let key ← expand target? steps depth entry.1
          let value ← expand target? steps depth entry.2
          return (key, value)
        return .mapping tag entries

/-- The tree of a document. No alias stands for another, so a path of 128 collections has no more
than twice 129 steps. -/
def ofNode? (root : Node) : Option Tree :=
  ((expand root.target? (2 * 129) 128 root).run (100 * root.size)).map Prod.fst

/-- The tree of the only document of a text. -/
def ofText? (text : String) : Option Tree := do
  match ← Node.ofText? text with
  | some root => ofNode? root
  | none => return .void

end Tree

end DocumentTemplates.Yaml
