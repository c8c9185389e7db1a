import DocumentTemplates.Build
import DocumentTemplates.Proofs.Build.Refinement
import DocumentTemplates.Proofs.OrderedMap.Merge

/-!
# Contributions one after the other

A document is made by adding contributions to it. Under each key it has what the last contribution
with that key says. A directive contributes on the document merged so far, at which only nodes
look; so the contributions of other directives are the same on every document.
-/

namespace DocumentTemplates

namespace Contribution

/-- What a contribution says under a key: of entries with one key, the last counts. -/
def value? (c : Contribution) (key : String) : Option Value :=
  match c with
  | .entry k v => if k = key then some v else none
  | .merged other => (OrderedMap.ofEntries other).get? key

/-- A document with contributions added in order. -/
def addAll (doc : Document) (cs : List Contribution) : Document :=
  cs.foldl addTo doc

theorem addAll_append (doc : Document) (cs ds : List Contribution) :
    addAll doc (cs ++ ds) = addAll (addAll doc cs) ds :=
  List.foldl_append

theorem distinctKeys_addTo {doc : Document} (h : OrderedMap.DistinctKeys doc) (c : Contribution) :
    OrderedMap.DistinctKeys (c.addTo doc) := by
  cases c with
  | entry key v => exact OrderedMap.distinctKeys_insert h key v
  | merged other => exact OrderedMap.distinctKeys_merge h other

theorem distinctKeys_addAll {doc : Document} (h : OrderedMap.DistinctKeys doc)
    (cs : List Contribution) : OrderedMap.DistinctKeys (addAll doc cs) := by
  induction cs generalizing doc with
  | nil => exact h
  | cons c rest ih => exact ih (distinctKeys_addTo h c)

theorem get?_addTo (doc : Document) (c : Contribution) (key : String) :
    (c.addTo doc).get? key = (c.value? key).or (doc.get? key) := by
  cases c with
  | entry k v =>
    rw [addTo, OrderedMap.get?_insert, value?]
    split
    · rfl
    · rfl
  | merged other => exact OrderedMap.get?_merge_insert doc other key

/-- The last contribution that says something under a key decides. -/
theorem get?_addAll (doc : Document) (cs : List Contribution) (key : String) :
    (addAll doc cs).get? key = (cs.reverse.findSome? fun c => c.value? key).or (doc.get? key) := by
  induction cs generalizing doc with
  | nil => rfl
  | cons c rest ih =>
    have hc : addAll doc (c :: rest) = addAll (c.addTo doc) rest := rfl
    rw [hc, ih, get?_addTo, List.reverse_cons, List.findSome?_append, Option.or_assoc]
    congr 1
    simp only [List.findSome?_cons, List.findSome?_nil]
    cases c.value? key with
    | some v => rfl
    | none => rfl

end Contribution

/-- What a node contributes on the document merged so far. -/
def Node.contribution (setting : Setting) (object : Data) (f : Option Filter) (doc : Document)
    (n : Node) : Except BuildError (Option Contribution) :=
  if n.guard.passes object setting.scope && n.name.all (Filter.admits f) then do
    let v ← n.value setting object doc
    return match n.name, v with
      | some name, v => some (.entry name (Filter.stored f name v))
      | none, .document other => some (.merged other)
      | none, _ => none
  else .ok none

theorem Node.addTo_eq (setting : Setting) (object : Data) (f : Option Filter) (doc : Document)
    (n : Node) :
    n.addTo setting object f doc =
      (n.contribution setting object f doc).map fun c => Contribution.addAll doc c.toList := by
  unfold Node.addTo Node.contribution
  split
  · cases n.value setting object doc with
    | error e => rfl
    | ok v =>
      cases n.name with
      | some name => rfl
      | none => cases v <;> rfl
  · rfl

theorem liftExcept_eq {α : Type} (x : Except BuildError α) : liftExcept x = x := by
  cases x with
  | ok a => rfl
  | error e => rfl

namespace Strategy

variable {S : Setting} {e : Template → Data → Option Filter → Except BuildError Document}
  {object : Data} {f : Option Filter}

/-- What a directive contributes on the document merged so far, in a plain build. -/
def contributionOn (S : Setting)
    (e : Template → Data → Option Filter → Except BuildError Document) (object : Data)
    (f : Option Filter) (doc : Document) : Directive → Except BuildError (Option Contribution)
  | .node n => n.contribution S object f doc
  | d => (plain S).contribution S e object f d

/-- The contributions of directives that act in turn, each on the document merged before it. -/
def inTurn (S : Setting) (e : Template → Data → Option Filter → Except BuildError Document)
    (object : Data) (f : Option Filter) :
    Document → List Directive → Except BuildError (List Contribution)
  | _, [] => .ok []
  | doc, d :: rest => do
    let first ← contributionOn S e object f doc d
    let more ← inTurn S e object f (Contribution.addAll doc first.toList) rest
    return first.toList ++ more

theorem inTurn_cons_eq_ok {doc : Document} {d : Directive} {rest : List Directive}
    {cs : List Contribution} :
    inTurn S e object f doc (d :: rest) = .ok cs ↔
      ∃ first more, contributionOn S e object f doc d = .ok first ∧
        inTurn S e object f (Contribution.addAll doc first.toList) rest = .ok more ∧
        cs = first.toList ++ more := by
  simp only [inTurn, bind_eq_ok]
  constructor
  · rintro ⟨first, hfirst, more, hmore, hcs⟩
    exact ⟨first, more, hfirst, hmore, (Except.ok.inj hcs).symm⟩
  · rintro ⟨first, more, hfirst, hmore, rfl⟩
    exact ⟨first, hfirst, more, hmore, rfl⟩

theorem inTurn_append_eq_ok {doc : Document} {ds es : List Directive} {cs : List Contribution} :
    inTurn S e object f doc (ds ++ es) = .ok cs ↔
      ∃ before after, inTurn S e object f doc ds = .ok before ∧
        inTurn S e object f (Contribution.addAll doc before) es = .ok after ∧
        cs = before ++ after := by
  induction ds generalizing doc cs with
  | nil =>
    constructor
    · exact fun h => ⟨[], cs, rfl, h, rfl⟩
    · rintro ⟨before, after, hbefore, hafter, rfl⟩
      obtain rfl := Except.ok.inj hbefore
      exact hafter
  | cons d rest ih =>
    simp only [List.cons_append, inTurn_cons_eq_ok]
    constructor
    · rintro ⟨first, more, hfirst, hmore, rfl⟩
      obtain ⟨before, after, hbefore, hafter, rfl⟩ := ih.1 hmore
      refine ⟨first.toList ++ before, after, ⟨first, before, hfirst, hbefore, rfl⟩, ?_, ?_⟩
      · rw [Contribution.addAll_append]
        exact hafter
      · rw [List.append_assoc]
    · rintro ⟨_, after, ⟨first, before, hfirst, hbefore, rfl⟩, hafter, rfl⟩
      rw [Contribution.addAll_append] at hafter
      exact ⟨first, before ++ after, hfirst, ih.2 ⟨before, after, hbefore, hafter, rfl⟩,
        List.append_assoc _ _ _⟩

/-- What a directive contributes before the nodes run, where its computation succeeds. -/
def contributed (s : Strategy (Except BuildError)) (S : Setting)
    (e : Template → Data → Option Filter → Except BuildError Document) (object : Data)
    (f : Option Filter) (d : Directive) : Option Contribution :=
  match s.contribution S e object f d with
  | .ok c => c
  | .error _ => none

theorem contributionOn_of_ne_nodes {d : Directive} (hd : d.phase ≠ .nodes) (doc : Document) :
    contributionOn S e object f doc d = (plain S).contribution S e object f d := by
  cases d with
  | node n => exact absurd rfl hd
  | _ => rfl

theorem contributed_eq {s : Strategy (Except BuildError)} {d : Directive}
    {c : Option Contribution} (h : s.contribution S e object f d = .ok c) :
    contributed s S e object f d = c := by
  rw [contributed, h]

/-- Directives other than nodes act in turn exactly if each of them succeeds. -/
theorem inTurn_eq_ok_of_ne_nodes {ds : List Directive} (hds : ∀ d ∈ ds, d.phase ≠ .nodes)
    {doc : Document} {cs : List Contribution} :
    inTurn S e object f doc ds = .ok cs ↔
      (∀ d ∈ ds, ∃ c, (plain S).contribution S e object f d = .ok c) ∧
        cs = ds.filterMap (contributed (plain S) S e object f) := by
  induction ds generalizing doc cs with
  | nil => simp [inTurn, eq_comm]
  | cons d rest ih =>
    have hd := hds d List.mem_cons_self
    have hrest : ∀ d ∈ rest, d.phase ≠ .nodes := fun x hx => hds x (List.mem_cons_of_mem d hx)
    simp only [inTurn_cons_eq_ok, contributionOn_of_ne_nodes hd, ih hrest, List.forall_mem_cons]
    constructor
    · rintro ⟨first, more, hfirst, ⟨hmore, rfl⟩, rfl⟩
      refine ⟨⟨⟨first, hfirst⟩, hmore⟩, ?_⟩
      rw [List.filterMap_cons, contributed_eq hfirst]
      cases first <;> rfl
    · rintro ⟨⟨⟨first, hfirst⟩, hmore⟩, rfl⟩
      refine ⟨first, _, hfirst, ⟨hmore, rfl⟩, ?_⟩
      rw [List.filterMap_cons, contributed_eq hfirst]
      cases first <;> rfl

theorem gather_eq_ok {s : Strategy (Except BuildError)} {ds : List Directive}
    {gathered : List (Phase × Contribution)} :
    s.gather S e object f ds = .ok gathered ↔
      (∀ d ∈ ds, ∃ c, s.contribution S e object f d = .ok c) ∧
        gathered = ds.filterMap fun d => (contributed s S e object f d).map (d.phase, ·) := by
  induction ds generalizing gathered with
  | nil => simp [gather, pure, Except.pure, eq_comm]
  | cons d rest ih =>
    simp only [gather, bind_eq_ok, ih, List.forall_mem_cons]
    constructor
    · rintro ⟨first, hfirst, more, ⟨hmore, rfl⟩, hg⟩
      refine ⟨⟨⟨first, hfirst⟩, hmore⟩, ?_⟩
      rw [List.filterMap_cons, contributed_eq hfirst, ← Except.ok.inj hg]
      cases first <;> rfl
    · rintro ⟨⟨⟨first, hfirst⟩, hmore⟩, rfl⟩
      refine ⟨first, hfirst, _, ⟨hmore, rfl⟩, ?_⟩
      rw [List.filterMap_cons, contributed_eq hfirst]
      cases first <;> rfl

end Strategy

end DocumentTemplates
