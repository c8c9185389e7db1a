import DocumentTemplates.Proofs.Build.Store

/-!
# How builds fail

Each part of a build has errors of its own: attributes are missing, helpers are unknown, templates
cannot be read. What else a build can end in, the depth limit alone brings in.
-/

namespace DocumentTemplates

/-- Whatever error a computation ends in is as `P` says. -/
def FailsOnly {α : Type} (P : BuildError → Prop) (x : Except BuildError α) : Prop :=
  ∀ e, x = .error e → P e

/-- The errors with which templates are looked for and read. -/
inductive BuildError.OfTemplate : BuildError → Prop
  | notFound (name : String) (searched : List String) : OfTemplate (.templateNotFound name searched)
  | unreadable (path : String) : OfTemplate (.unreadableFile path)
  | fault (name : String) (fault : TemplateFault) : OfTemplate (.ofFault name fault)

namespace FailsOnly

variable {α β : Type} {P Q : BuildError → Prop} {x : Except BuildError α}

theorem ok (a : α) : FailsOnly P (.ok a) :=
  fun _ h => nomatch h

theorem error {e : BuildError} (h : P e) : FailsOnly P (.error e : Except BuildError α) := by
  rintro _ ⟨⟩
  exact h

theorem mono (h : FailsOnly P x) (hpq : ∀ e, P e → Q e) : FailsOnly Q x :=
  fun e he => hpq e (h e he)

theorem bind {f : α → Except BuildError β} (hx : FailsOnly P x) (hf : ∀ a, FailsOnly P (f a)) :
    FailsOnly P (x >>= f) := by
  cases x with
  | error e => exact error (hx e rfl)
  | ok a => exact hf a

end FailsOnly

theorem Attribute.contribution_failsOnly (S : Setting) (object : Data) (f : Option Filter)
    (a : Attribute) :
    FailsOnly (fun e => S.config.strictAttributes = true ∧ e = .missingAttribute a.name)
      (a.contribution S object f) := by
  unfold Attribute.contribution
  split
  · split
    · exact .ok _
    · split
      · rename_i hstrict
        exact .error ⟨hstrict, rfl⟩
      · exact .ok _
  · exact .ok _

theorem Node.addTo_failsOnly (S : Setting) (object : Data) (f : Option Filter) (doc : Document)
    (n : Node) : FailsOnly (fun e => ∃ name, e = .unknownHelper name) (n.addTo S object f doc) := by
  have hvalue : FailsOnly (fun e => ∃ name, e = .unknownHelper name) (n.value S object doc) := by
    unfold Node.value
    split
    · exact .ok _
    · split
      · exact .ok _
      · exact .error ⟨_, rfl⟩
    · exact .ok _
  unfold Node.addTo
  split
  · exact hvalue.bind fun v => .ok _
  · exact .ok doc

theorem Node.foldlM_addTo_failsOnly (S : Setting) (object : Data) (f : Option Filter)
    (ns : List Node) (doc : Document) :
    FailsOnly (fun e => ∃ name, e = .unknownHelper name)
      (ns.foldlM (Node.addTo S object f) doc) := by
  induction ns generalizing doc with
  | nil => exact .ok doc
  | cons n ns ih =>
    rw [List.foldlM_cons]
    exact (n.addTo_failsOnly S object f doc).bind ih

theorem Source.resolve_failsOnly (source : Source) (name : String) (searchPaths : List String) :
    FailsOnly BuildError.OfTemplate (source.resolve name searchPaths) := by
  unfold Source.resolve
  split
  · exact .error (.notFound _ _)
  · simp only
    split
    · exact .ok _
    · exact .ok _
    · exact .error (.notFound _ _)
  · simp only
    split
    · exact .ok _
    · exact .error (.unreadable _)
    · exact .error (.notFound _ _)

theorem Setting.load_failsOnly (S : Setting) (name : String) :
    FailsOnly BuildError.OfTemplate (S.load name) := by
  refine (S.source.resolve_failsOnly name S.config.searchPaths).bind fun found => ?_
  cases Template.read S.digestOf name found.text with
  | ok t => exact .ok t
  | error fault => exact .error (.fault name fault)

theorem Store.load_failsOnly {σ : Type} (S : Setting) (store : Store σ) (name : String) :
    FailsOnly BuildError.OfTemplate (store.load S name) := by
  unfold Store.load
  split
  · unfold Registry.load
    split
    · exact .ok _
    · split
      · exact .ok _
      · rename_i e hl
        exact .error (S.load_failsOnly name e hl)
  · exact S.load_failsOnly name

end DocumentTemplates
