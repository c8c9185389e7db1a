import DocumentTemplates.Cache.Memory
import DocumentTemplates.Proofs.Build.Uncached
import DocumentTemplates.Proofs.Filter.Pruning
import DocumentTemplates.Proofs.Value.Parts

/-!
# What the null policy leaves in a result

The policy is the last thing that acts on every document that a build makes. What is put around
these documents, roots and arrays, brings in nothing that a policy looks at, so the policy holds
at every depth of a result.
-/

namespace DocumentTemplates

namespace NilPolicy

/-- True of a value in which, its parts aside, the policy leaves nothing to do. -/
def Fits : NilPolicy → Value → Prop
  | .keep, _ => True
  | .blankToEmpty, v => v ≠ .null
  | .emptyToNil, v => v ≠ .string ""
  | .dropNil, v => ∀ entry ∈ v.entries, entry.2 ≠ .null

/-- The policy holds of a value if every part of it fits. -/
def Holds (policy : NilPolicy) (v : Value) : Prop :=
  ∀ part ∈ v.parts, policy.Fits part

variable {policy : NilPolicy}

theorem holds_array {items : List Value} :
    policy.Holds (.array items) ↔ ∀ v ∈ items, policy.Holds v := by
  rw [Holds, Value.parts, Value.partsOfItems_eq_flatMap, List.forall_mem_cons,
    List.forall_mem_flatMap]
  refine and_iff_right ?_
  cases policy <;> simp [Fits, Value.entries]

theorem holds_document {entries : List (String × Value)} :
    policy.Holds (.document entries) ↔
      ∀ entry ∈ entries, policy.Holds entry.2 ∧ (policy = .dropNil → entry.2 ≠ .null) := by
  have hfits : policy.Fits (.document entries) ↔
      ∀ entry ∈ entries, policy = .dropNil → entry.2 ≠ .null := by
    cases policy <;> simp [Fits, Value.entries]
  rw [Holds, Value.parts, Value.partsOfEntries_eq_flatMap, List.forall_mem_cons,
    List.forall_mem_flatMap, hfits]
  exact ⟨fun h entry he => ⟨h.2 entry he, h.1 entry he⟩,
    fun h => ⟨fun entry he => (h entry he).2, fun entry he => (h entry he).1⟩⟩

theorem holds_wrap {doc : Document} (h : policy.Holds (.document doc)) (root : String) :
    policy.Holds (.document (doc.wrap root)) := by
  simpa [holds_document, Document.wrap, Document.single] using holds_document.1 h

theorem ne_null_applyValue {v : Value} (hp : policy.drops v = false) :
    policy = .dropNil → policy.applyValue v ≠ .null := by
  rintro rfl
  cases v <;> simp_all [drops, applyValue, dropNulls, Value.isNull]

theorem holds_applyValue_leaf (policy : NilPolicy) {v : Value} (ha : ∀ items, v ≠ .array items)
    (hd : ∀ entries, v ≠ .document entries) : policy.Holds (policy.applyValue v) := by
  cases v with
  | array items => exact absurd rfl (ha items)
  | document entries => exact absurd rfl (hd entries)
  | string s =>
    by_cases hs : s = "" <;> cases policy <;>
      simp [Holds, applyValue, mapLeaves, blankLeaf, emptyLeaf, dropNulls, Value.parts, Fits,
        Value.entries, hs]
  | _ =>
    cases policy <;>
      simp [Holds, applyValue, mapLeaves, blankLeaf, emptyLeaf, dropNulls, Value.parts, Fits,
        Value.entries]

mutual

/-- A policy leaves nothing to do. -/
theorem holds_applyValue (policy : NilPolicy) : ∀ v, policy.Holds (policy.applyValue v)
  | .array items => by
    rw [applyValue_array, holds_array, List.forall_mem_map]
    exact holds_applyItems policy items
  | .document entries => by
    rw [applyValue_document, apply_eq_filterMap, holds_document]
    intro entry hentry
    obtain ⟨source, hsource, hleft⟩ := List.mem_filterMap.1 hentry
    obtain ⟨hkept, rfl⟩ : policy.drops source.2 = false ∧
        (source.1, policy.applyValue source.2) = entry := by
      simpa [ entry?] using hleft
    exact ⟨holds_applyEntries policy entries source hsource, ne_null_applyValue hkept⟩
  | .null | .bool _ | .integer _ | .float _ | .string _ =>
    holds_applyValue_leaf policy (by simp) (by simp)

theorem holds_applyItems (policy : NilPolicy) :
    ∀ items : List Value, ∀ v ∈ items, policy.Holds (policy.applyValue v)
  | [] => by simp
  | v :: rest =>
    List.forall_mem_cons.2 ⟨holds_applyValue policy v, holds_applyItems policy rest⟩

theorem holds_applyEntries (policy : NilPolicy) :
    ∀ entries : List (String × Value), ∀ entry ∈ entries,
      policy.Holds (policy.applyValue entry.2)
  | [] => by simp
  | (_, v) :: rest =>
    List.forall_mem_cons.2 ⟨holds_applyValue policy v, holds_applyEntries policy rest⟩

end

theorem holds_apply (policy : NilPolicy) (doc : Document) :
    policy.Holds (.document (policy.apply doc)) := by
  rw [← applyValue_document]
  exact holds_applyValue policy _

end NilPolicy

namespace StoreBuild

variable {σ α β : Type}

/-- Whatever a build gives on a store is as `P` says. -/
def Gives (store : Store σ) (P : α → Prop) (x : StoreBuild σ α) : Prop :=
  ∀ a, (runOn x store).1 = .ok a → P a

variable {store : Store σ} {P : α → Prop} {Q : β → Prop}

theorem gives_pure {a : α} (h : P a) : Gives store P (pure a) := by
  rintro _ ⟨⟩
  exact h

theorem Gives.bind {x : StoreBuild σ α} {f : α → StoreBuild σ β} (hx : Gives store P x)
    (hf : ∀ a rest, P a → Gives rest Q (f a)) : Gives store Q (x >>= f) := by
  intro b hb
  rw [runOn_bind] at hb
  rcases hr : runOn x store with ⟨_ | a, rest⟩
  · simp [hr] at hb
  · rw [hr] at hb
    exact hf a rest (hx a (by rw [hr])) b hb

theorem gives_mapM {f : α → StoreBuild σ β} (h : ∀ a store, Gives store Q (f a)) (as : List α) :
    Gives store (fun bs => ∀ b ∈ bs, Q b) (as.mapM f) := by
  induction as generalizing store with
  | nil => exact gives_pure (by simp)
  | cons a rest ih =>
    rw [List.mapM_cons]
    refine (h a store).bind fun b _ hb => ih.bind fun bs _ hbs => gives_pure ?_
    exact List.forall_mem_cons.2 ⟨hb, hbs⟩

end StoreBuild

namespace Strategy

open StoreBuild (Gives gives_pure)

variable {σ : Type} {S : Setting}

/-- Every document that is built ends with the policy. -/
theorem evaluate_gives (s : Strategy (StoreBuild σ)) (levels : Nat) (t : Template)
    (object : Data) (f : Option Filter) (store : Store σ) :
    Gives store (fun doc => S.config.nilPolicy.Holds (.document doc))
      (s.evaluate S levels t object f) := by
  cases levels with
  | zero =>
    intro doc h
    cases h
  | succ levels =>
    refine Gives.bind (P := fun _ => True) (fun _ _ => trivial) fun gathered store _ => ?_
    refine Gives.bind (P := fun _ => True) (fun _ _ => trivial) fun doc store _ => ?_
    exact gives_pure (NilPolicy.holds_apply _ doc)

theorem compute_gives (s : Strategy (StoreBuild σ)) (t : Template) (plan : Plan)
    (store : Store σ) :
    Gives store S.config.nilPolicy.Holds (compute (s.document S) t plan) := by
  refine (s.evaluate_gives _ t plan.item plan.filter store).bind fun doc _ hdoc => gives_pure ?_
  cases plan.root with
  | none => exact hdoc
  | some root => exact NilPolicy.holds_wrap hdoc root

variable [ResultCache σ] {store : Store σ}

theorem items_gives (hu : store.Uncached S) (options : BuildOptions) (t : Template)
    (elementRoot : RootSetting) (collection : Option String) (f : Option Filter)
    (elements : List Data) :
    Gives store (fun vs => ∀ v ∈ vs, S.config.nilPolicy.Holds v)
      ((stored S options).items S ((stored S options).document S) t elementRoot collection f
        elements) := by
  have hmany : Gives store (fun vs => ∀ v ∈ vs, S.config.nilPolicy.Holds v)
      (StoreBuild.many S options t (Plan.ofItems elementRoot collection f elements)
        (compute ((stored S options).document S) t)) := by
    intro vs h
    rw [StoreBuild.runOn_many_of_uncached hu] at h
    exact StoreBuild.gives_mapM (fun plan store => compute_gives _ t plan store) _ vs h
  refine hmany.bind fun results _ hresults => gives_pure ?_
  split
  · exact fun v hv => hresults v (List.mem_filter.1 hv).1
  · exact hresults

theorem single_gives (hu : store.Uncached S) (options : BuildOptions) (t : Template)
    (plan : Plan) :
    Gives store S.config.nilPolicy.Holds
      (StoreBuild.single S options t plan (compute ((stored S options).document S) t)) := by
  intro v h
  rw [StoreBuild.runOn_single_of_uncached hu] at h
  exact compute_gives _ t plan store v h

/-- Where no results are kept, the null policy holds of the result for any object but null,
whatever the template, the scope, the source, the filter and the roots are. -/
theorem nilPolicy_holds_of_build (options : BuildOptions) (t : Template) {data : Data}
    (hdata : data ≠ .null) (hu : store.Uncached S) {v : Value}
    (h : ((stored S options).build S options t data |>.runOn store).1 = .ok v) :
    S.config.nilPolicy.Holds v := by
  revert v
  change Gives store _ _
  unfold build
  cases data with
  | null => exact absurd rfl hdata
  | list name elements =>
    refine (items_gives hu options t _ _ _ _).bind fun results _ hresults => gives_pure ?_
    have harray := NilPolicy.holds_array.2 hresults
    split
    · simpa [NilPolicy.holds_document, Document.single] using harray
    · exact harray
  | _ => exact single_gives hu options t _

/-- A list of one user without an e-mail address. The null in the array stays, the keys with null
values are gone at every depth. -/
theorem nilPolicy_holds_of_build_users :
    let S : Setting := ⟨{ nilPolicy := .dropNil }, .empty, .nowhere, id⟩
    let note : Value := .array [.null, .document [("draft", .null), ("stars", .integer 5)]]
    let posts : Template := .mk none [.attribute { name := "title" }] "posts"
    let t : Template := .mk none
      [.attribute { name := "email" },
        .node { name := some "note", compute := .function "note" fun _ => note },
        .child (.member "posts") none {} posts] "users"
    let users : Data := .list (some "users") [.record (some "user") none
      [("email", .null), ("posts", .list none [.record none none [("title", .null)]])]]
    let result : Value := .array [.document [("posts", .array [.document []]),
      ("note", .array [.null, .document [("stars", .integer 5)]])]]
    let store : Store MemoryCache := {}
    users ≠ .null ∧ store.Uncached S ∧
      ((stored S {}).build S {} t users |>.runOn store).1 = .ok result ∧
      S.config.nilPolicy.Holds result := by
  intro S note posts t users result store
  have hdata : users ≠ .null := by simp [users]
  have hu : store.Uncached S := .inl rfl
  have hbuild : ((stored S {}).build S {} t users |>.runOn store).1 = .ok result := rfl
  exact ⟨hdata, hu, hbuild, nilPolicy_holds_of_build {} t hdata hu hbuild⟩

end Strategy

end DocumentTemplates
