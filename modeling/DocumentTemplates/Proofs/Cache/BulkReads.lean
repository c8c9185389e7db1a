import DocumentTemplates.Proofs.Cache.Recall

/-!
# Bulk reads

The results for the elements of a list are read from the cache together before any is built, or one
by one, each after the elements before it were built and may have written its key. Both give the
same, whatever is in the cache: a key that came to be found in between was written by this build,
so its value is recalled from the reading, and building the element again gives that value and
changes nothing. This needs keys that stand for one result, so digests must be told apart in them.
-/

namespace DocumentTemplates

/-- Two stores with the same reading, through which the same is loaded as through a third. -/
structure Store.Twins (S : Setting) (origin store₁ store₂ : Store MemoryCache) : Prop where
  left : store₁.Follows S origin
  right : store₂.Follows S origin
  reading : store₁.reading = store₂.reading

/-- Two runs with the same outcome, which leave stores that read the same. If what is stored
expires at once, the reading stays as it was. -/
structure Store.SameRun {α β : Type} (S : Setting) (options : BuildOptions)
    (origin : Store MemoryCache) (P : α → β → Prop) (ρ : Reading)
    (run₁ : Except BuildError α × Store MemoryCache)
    (run₂ : Except BuildError β × Store MemoryCache) : Prop where
  outcome : SameOutcome P run₁.1 run₂.1
  twins : Store.Twins S origin run₁.2 run₂.2
  still : ¬ options.Lasting → run₁.2.reading = ρ

namespace Store.SameRun

variable {S : Setting} {options : BuildOptions} {origin store₁ store₂ : Store MemoryCache}
  {α β γ δ : Type} {P : α → β → Prop} {Q : γ → δ → Prop} {ρ : Reading}

theorem pure {a : α} {b : β} (h : P a b) (hs : Store.Twins S origin store₁ store₂)
    (hstill : ¬ options.Lasting → store₁.reading = ρ) :
    Store.SameRun S options origin P ρ (.ok a, store₁) (.ok b, store₂) :=
  ⟨.ok h, hs, hstill⟩

theorem bind {x : StoreBuild MemoryCache α} {y : StoreBuild MemoryCache β}
    {f : α → StoreBuild MemoryCache γ} {g : β → StoreBuild MemoryCache δ}
    (h : Store.SameRun S options origin P ρ (x.runOn store₁) (y.runOn store₂))
    (hf : ∀ a b, P a b → Store.SameRun S options origin Q (x.runOn store₁).2.reading
      ((f a).runOn (x.runOn store₁).2) ((g b).runOn (y.runOn store₂).2)) :
    Store.SameRun S options origin Q ρ ((x >>= f).runOn store₁) ((y >>= g).runOn store₂) := by
  rw [StoreBuild.runOn_bind, StoreBuild.runOn_bind]
  obtain ⟨ho, hmid, hstill⟩ := h
  rcases hr₁ : x.runOn store₁ with ⟨r₁, mid₁⟩
  rcases hr₂ : y.runOn store₂ with ⟨r₂, mid₂⟩
  rw [hr₁, hr₂] at ho hmid hf
  rw [hr₁] at hstill
  cases ho with
  | error e => exact ⟨.error e, hmid, hstill⟩
  | ok hab =>
    obtain ⟨ho', hrest, hstill'⟩ := hf _ _ hab
    exact ⟨ho', hrest, fun he => (hstill' he).trans (hstill he)⟩

end Store.SameRun

/-- On stores that read the same, the runs are the same. -/
def Simulation.twins (S : Setting) (options : BuildOptions) (origin : Store MemoryCache) :
    Simulation (StoreBuild MemoryCache) (StoreBuild MemoryCache) where
  rel P x y := ∀ store₁ store₂ : Store MemoryCache, Store.Twins S origin store₁ store₂ →
    Store.SameRun S options origin P store₁.reading (x.runOn store₁) (y.runOn store₂)
  pure := fun h _ _ hs => .pure h hs fun _ => rfl
  bind := fun hx hf store₁ store₂ hs =>
    have h := hx store₁ store₂ hs
    h.bind fun a b hab => hf a b hab _ _ h.twins

/-- What has become of a reading: it has grown, or it is the same if what is stored expires at
once. -/
structure Store.Since (S : Setting) (options : BuildOptions) (origin : Store MemoryCache)
    (Asked : Template → Plan → Prop) (levels : Nat) (ρ₀ ρ : Reading) : Prop where
  grown : options.Lasting → origin.Grows S options Asked levels ρ₀ ρ
  same : ¬ options.Lasting → ρ = ρ₀

/-- The result of a plan that is asked for, computed with bulk reads and without: both the same,
the one standing where it can be recalled, the other making the reading grow. -/
structure Store.Computed (S : Setting) (options : BuildOptions) (origin : Store MemoryCache)
    (Asked : Template → Plan → Prop) (levels : Nat) (t : Template) (plan : Plan)
    (x y : StoreBuild MemoryCache Value) : Prop where
  asked : Asked t plan
  twins : (Simulation.twins S options origin).rel Eq x y
  stands (ρ : Reading) :
    (Simulation.stands S origin ρ).rel Eq x (origin.recalled S options levels t plan)
  grows (hlive : options.Lasting) :
    (Simulation.grows S options origin Asked levels).rel Eq y
      (origin.recalled S options levels t plan)

namespace StoreBuild

variable {S : Setting} {options : BuildOptions} {origin store₁ store₂ : Store MemoryCache}
  {Asked : Template → Plan → Prop} {levels : Nat} {t : Template} {plan : Plan}

theorem twins_takeBy (key : Option CacheKey) {x y : StoreBuild MemoryCache Value}
    (hxy : (Simulation.twins S options origin).rel Eq x y)
    (hs : Store.Twins S origin store₁ store₂) {ρ : Reading} (hρ : store₁.reading = ρ) :
    Store.SameRun S options origin Eq store₁.reading
      (runOn (takeBy ρ options.expiresIn key x) store₁)
      (runOn (takeBy ρ options.expiresIn key y) store₂) := by
  cases key with
  | none => exact hxy store₁ store₂ hs
  | some key =>
    cases hv : ρ key with
    | some v =>
      simp only [takeBy, hv]
      exact .pure rfl hs fun _ => rfl
    | none =>
      simp only [takeBy, hv]
      obtain ⟨ho, hmid, hstill⟩ := hxy store₁ store₂ hs
      rcases hr₁ : x.runOn store₁ with ⟨r₁, mid₁⟩
      rcases hr₂ : y.runOn store₂ with ⟨r₂, mid₂⟩
      rw [hr₁, hr₂] at ho hmid
      rw [hr₁] at hstill
      cases ho with
      | error e =>
        rw [runOn_keep_error hr₁, runOn_keep_error hr₂]
        exact ⟨.error e, hmid, hstill⟩
      | ok hvw =>
        subst hvw
        obtain ⟨rest₁, hrun₁, hf₁, hread₁⟩ := runOn_keep hr₁ hmid.left key options.expiresIn
        obtain ⟨rest₂, hrun₂, hf₂, hread₂⟩ := runOn_keep hr₂ hmid.right key options.expiresIn
        rw [hrun₁, hrun₂]
        refine .pure rfl ⟨hf₁, hf₂, ?_⟩ fun he => ?_
        · rw [hread₁, hread₂, hmid.reading]
        · have hnone : mid₁.reading key = none := by rw [hstill he, hρ, hv]
          exact hread₁.trans ((Reading.keep_of_expired he hnone).trans (hstill he))

theorem twins_single {compute₁ compute₂ : Plan → StoreBuild MemoryCache Value}
    (hx : (Simulation.twins S options origin).rel Eq (compute₁ plan) (compute₂ plan)) :
    (Simulation.twins S options origin).rel Eq
      (single (S.withBulkReads true) options t plan compute₁)
      (single (S.withBulkReads false) options t plan compute₂) := by
  intro store₁ store₂ hs
  obtain ⟨mid₁, hmid₁, hread₁, hrun₁⟩ := runOn_single hs.left true t plan compute₁
  obtain ⟨mid₂, hmid₂, hread₂, hrun₂⟩ := runOn_single hs.right false t plan compute₂
  rw [hrun₁, hrun₂, ← hs.reading, ← hread₁]
  exact twins_takeBy _ hx ⟨hmid₁, hmid₂, hread₁.trans (hs.reading.trans hread₂.symm)⟩ rfl

/-- One result, taken by an earlier reading on one side and by that of the moment on the other.
What has come to be found in the meantime is computed again on one side, with the value that is
found on the other. -/
theorem twins_item {compute₁ compute₂ : Plan → StoreBuild MemoryCache Value}
    (hx : origin.Computed S options Asked levels t plan (compute₁ plan) (compute₂ plan))
    (hs : Store.Twins S origin store₁ store₂) {ρ₀ : Reading}
    (hsince : origin.Since S options Asked levels ρ₀ store₁.reading) :
    Store.SameRun S options origin Eq store₁.reading
      (runOn (takeBy ρ₀ options.expiresIn (origin.key? S options t plan) (compute₁ plan)) store₁)
      (runOn (single (S.withBulkReads false) options t plan compute₂) store₂) := by
  obtain ⟨mid, hmid, hread, hrun⟩ := runOn_single hs.right false t plan compute₂
  have hs' : Store.Twins S origin store₁ mid := ⟨hs.left, hmid, hs.reading.trans hread.symm⟩
  rw [hrun, ← hs.reading]
  cases hk : origin.key? S options t plan with
  | none => exact hx.twins store₁ mid hs'
  | some key =>
    -- unless the key has come to be found, both readings say the same about it
    have hagree : ρ₀ key = store₁.reading key →
        takeBy ρ₀ options.expiresIn (some key) (compute₁ plan) =
          takeBy store₁.reading options.expiresIn (some key) (compute₁ plan) := by
      intro h
      rw [takeBy, takeBy, h]
    by_cases hlive : options.Lasting
    · have hgrown := hsince.grown hlive
      cases h₀ : ρ₀ key with
      | some v =>
        rw [hagree (by rw [h₀, hgrown.kept h₀])]
        exact twins_takeBy _ hx.twins hs' rfl
      | none =>
        cases hv : store₁.reading key with
        | none =>
          rw [hagree (by rw [h₀, hv])]
          exact twins_takeBy _ hx.twins hs' rfl
        | some v =>
          have hrecalled := hgrown.new h₀ hv hx.asked hk
          obtain ⟨_, rest, hr, hf, hreading, rfl⟩ := hx.stands _ store₁ hs.left rfl v hrecalled
          obtain ⟨rest', hr', hf', hreading'⟩ := runOn_keep hr hf key options.expiresIn
          rw [hreading, Reading.keep_eq_self hlive hv] at hreading'
          simp only [takeBy, h₀, hv, hr']
          exact .pure rfl ⟨hf', hmid, hreading'.trans hs'.reading⟩ fun _ => hreading'
    · rw [hagree (by rw [hsince.same hlive])]
      exact twins_takeBy _ hx.twins hs' rfl

/-- The results for a list, taken by the reading at the start on one side and one by one on the
other. -/
theorem twins_items (htell : origin.KeysTell S options Asked) {plans : List Plan}
    {compute₁ compute₂ : Plan → StoreBuild MemoryCache Value}
    (hx : ∀ plan ∈ plans,
      origin.Computed S options Asked levels t plan (compute₁ plan) (compute₂ plan))
    (hs : Store.Twins S origin store₁ store₂) {ρ₀ : Reading}
    (hsince : origin.Since S options Asked levels ρ₀ store₁.reading) :
    Store.SameRun S options origin Eq store₁.reading
      (runOn (plans.mapM fun plan =>
        takeBy ρ₀ options.expiresIn (origin.key? S options t plan) (compute₁ plan)) store₁)
      (runOn (plans.mapM fun plan => single (S.withBulkReads false) options t plan compute₂)
        store₂) := by
  induction plans generalizing store₁ store₂ with
  | nil => exact .pure rfl hs fun _ => rfl
  | cons plan plans ih =>
    have hplan := hx plan List.mem_cons_self
    have hitem := twins_item hplan hs hsince
    rw [List.mapM_cons, List.mapM_cons]
    refine hitem.bind fun v _ hv => ?_
    subst hv
    obtain ⟨-, hmid, hstill⟩ := hitem
    generalize runOn (takeBy ρ₀ _ _ _) store₁ = run₁ at hmid hstill ⊢
    have hsince' : origin.Since S options Asked levels ρ₀ run₁.2.reading := by
      constructor
      · intro hlive
        obtain ⟨_, _, hr₂, -, hgrown, -⟩ :=
          grows_single hlive htell hplan.asked (hplan.grows hlive) store₂ hs.right
        rw [hr₂] at hmid
        rw [← hs.reading, ← hmid.reading] at hgrown
        exact (hsince.grown hlive).trans hgrown
      · exact fun he => (hstill he).trans (hsince.same he)
    have hitems := ih (fun p hp => hx p (List.mem_cons_of_mem _ hp)) hmid hsince'
    refine hitems.bind fun vs _ hvs => ?_
    subst hvs
    exact .pure rfl hitems.twins fun _ => rfl

theorem twins_many (htell : origin.KeysTell S options Asked) {plans : List Plan}
    {compute₁ compute₂ : Plan → StoreBuild MemoryCache Value}
    (hx : ∀ plan ∈ plans,
      origin.Computed S options Asked levels t plan (compute₁ plan) (compute₂ plan)) :
    (Simulation.twins S options origin).rel Eq
      (many (S.withBulkReads true) options t plans compute₁)
      (many (S.withBulkReads false) options t plans compute₂) := by
  intro store₁ store₂ hs
  obtain ⟨mid₁, hmid₁, hcache₁, hrun₁⟩ := runOn_many_together hs.left t plans compute₁
  have hread₁ := Store.reading_of_afterReading hcache₁
  obtain ⟨mid₂, hmid₂, hread₂, hrun₂⟩ := runOn_many_singly hs.right t plans compute₂
  rw [hrun₁, hrun₂, ← hread₁]
  exact twins_items htell hx
    ⟨hmid₁, hmid₂, hread₁.trans (hs.reading.trans hread₂.symm)⟩
    ⟨fun _ => .refl _, fun _ => rfl⟩

theorem twins_liftExcept {α : Type} (x : Except BuildError α) :
    (Simulation.twins S options origin).rel Eq (liftExcept x) (liftExcept x) := by
  intro store₁ store₂ hs
  rw [runOn_liftExcept, runOn_liftExcept]
  exact ⟨.of_eq rfl, hs, fun _ => rfl⟩

theorem twins_load (name : String) :
    (Simulation.twins S options origin).rel (fun b₁ b₂ => b₁ = b₂ ∧ origin.load S name = .ok b₁)
      (load (S.withBulkReads true) name) (load (S.withBulkReads false) name) := by
  intro store₁ store₂ hs
  obtain ⟨rest₁, hr₁, hf₁, hread₁⟩ := runOn_load_of_follows hs.left true name
  obtain ⟨rest₂, hr₂, hf₂, hread₂⟩ := runOn_load_of_follows hs.right false name
  rw [hr₁, hr₂]
  refine ⟨?_, ⟨hf₁, hf₂, hread₁.trans (hs.reading.trans hread₂.symm)⟩, fun _ => hread₁⟩
  cases origin.load S name with
  | ok b => exact .ok ⟨rfl, rfl⟩
  | error e => exact .error e

end StoreBuild

namespace Store

variable {S : Setting} {options : BuildOptions} {origin : Store MemoryCache}
  {start : Template → Plan → Prop}

theorem stored_twins (htell : origin.KeysTell S options (ReachedFrom.Asked S (origin.load S) start))
    (levels : Nat)
    (he : ∀ {t object f}, ReachedFrom S (origin.load S) start (.document t object f) →
      (Simulation.twins S options origin).rel Eq
        ((Strategy.stored (S.withBulkReads true) options).evaluate (S.withBulkReads true) levels t
          object f)
        ((Strategy.stored (S.withBulkReads false) options).evaluate (S.withBulkReads false) levels t
          object f)) :
    Simulates (Simulation.twins S options origin) (S.withBulkReads true) (S.withBulkReads false)
      (Strategy.stored (S.withBulkReads true) options)
      (Strategy.stored (S.withBulkReads false) options)
      ((Strategy.stored (S.withBulkReads true) options).evaluate (S.withBulkReads true) levels)
      ((Strategy.stored (S.withBulkReads false) options).evaluate (S.withBulkReads false) levels)
      (ReachedFrom.Task S (origin.load S) start) (ReachedFrom.Asked S (origin.load S) start) :=
  ReachedFrom.simulates StoreBuild.twins_liftExcept StoreBuild.twins_load he
    (fun ha => StoreBuild.twins_single (ReachedFrom.compute_rel he ha))
    fun ha => StoreBuild.twins_many htell fun plan hp => {
      asked := ha plan hp
      twins := ReachedFrom.compute_rel he (ha plan hp)
      stands := fun ρ => ReachedFrom.compute_rel (evaluate_stands ρ levels) (ha plan hp)
      grows := fun hlive =>
        ReachedFrom.compute_rel (evaluate_grows hlive htell levels) (ha plan hp) }

/-- Documents built with and without bulk reads, by induction on the bound of nesting. -/
theorem evaluate_twins
    (htell : origin.KeysTell S options (ReachedFrom.Asked S (origin.load S) start)) (levels : Nat)
    {t : Template} {object : Data} {f : Option Filter}
    (h : ReachedFrom S (origin.load S) start (.document t object f)) :
    (Simulation.twins S options origin).rel Eq
      ((Strategy.stored (S.withBulkReads true) options).evaluate (S.withBulkReads true) levels t
        object f)
      ((Strategy.stored (S.withBulkReads false) options).evaluate (S.withBulkReads false) levels t
        object f) := by
  induction levels generalizing t object f with
  | zero =>
    exact fun store₁ store₂ hs => ⟨.error _, hs, fun _ => rfl⟩
  | succ levels ih => exact (stored_twins htell levels ih).level ⟨rfl, rfl, h⟩

end Store

/-! ## Agreement -/

theorem Store.keysTell {S : Setting} {options : BuildOptions} {origin : Store MemoryCache}
    {Asked : Template → Plan → Prop}
    (hi : CacheKey.PartsIdentify (origin.fullDigest S) Asked)
    (ht : CacheKey.TellDigests (origin.fullDigest S) Asked) : origin.KeysTell S options Asked := by
  intro t t' plan plan' key ha ha' hk hk'
  unfold Store.key? at hk hk'
  split at hk
  · rename_i hon
    rw [if_pos hon] at hk'
    exact hi.same ht ha ha' hk hk'
  · cases hk

/-- The elements of a list with the template and the wrapping that are asked for. -/
structure ListBuild where
  template : Template
  elementRoot : RootSetting
  collection : Option String
  filter : Option Filter
  items : List Data

namespace ListBuild

/-- The results for a list, where at most `levels` builds are nested, and the store that is left. -/
def run (list : ListBuild) (S : Setting) (options : BuildOptions) (levels : Nat)
    (store : Store MemoryCache) : Except BuildError (List Value) × Store MemoryCache :=
  ((Strategy.stored S options).items S ((Strategy.stored S options).evaluate S levels)
    list.template list.elementRoot list.collection list.filter list.items).runOn store

/-- The plans that a list leads to, at every depth, with the templates that a store gives. -/
def Asked (list : ListBuild) (S : Setting) (store : Store MemoryCache) : Template → Plan → Prop :=
  ReachedFrom.Asked S (store.load S) fun t plan => t = list.template ∧
    plan ∈ Plan.ofItems list.elementRoot list.collection list.filter list.items

/-- Read from the cache together or one by one, the results for a list are the same, or the same
error, and afterwards every key reads the same: whatever is in the cache and in the registry, as
long as content keys, digests and queries identify what they stand for, and keys tell the digests
apart. -/
theorem run_withBulkReads (list : ListBuild) (S : Setting) (options : BuildOptions) (levels : Nat)
    {store : Store MemoryCache} {cache : MemoryCache} (hc : store.cache = some cache)
    (hi : CacheKey.PartsIdentify (store.fullDigest S) (list.Asked S store))
    (ht : CacheKey.TellDigests (store.fullDigest S) (list.Asked S store)) :
    let together := list.run (S.withBulkReads true) options levels store
    let singly := list.run (S.withBulkReads false) options levels store
    together.1 = singly.1 ∧ ∀ key, together.2.reading key = singly.2.reading key := by
  intro together singly
  have hf : store.Follows S store := ⟨rfl, cache, hc⟩
  have htell : store.KeysTell S options (list.Asked S store) := Store.keysTell hi ht
  have hsim := Store.stored_twins htell levels (Store.evaluate_twins htell levels)
  have hrun : Store.SameRun S options store Eq store.reading together singly :=
    hsim.items (fun plan hp => .start ⟨rfl, hp⟩) store store ⟨hf, hf, rfl⟩
  exact ⟨hrun.outcome.eq, congrFun hrun.twins.reading⟩

/-! ### Lists of objects with children

The template shows a name and the children that an object has under the name `c`, which show their
names. -/

namespace Family

def childTemplate (digest : String) : Template :=
  .mk none [.attribute { name := "name" }] digest

def template (digest childDigest : String) (childRoot : Option RootSetting) : Template :=
  .mk none [.attribute { name := "id" },
    .child (.member "c") childRoot {} (childTemplate childDigest)] digest

theorem eq_of_mem_childTemplate {digest : String} {d : Directive}
    (h : d ∈ (childTemplate digest).directives) : d = .attribute { name := "name" } :=
  List.mem_singleton.1 h

theorem eq_or_eq_of_mem_template {digest childDigest : String} {childRoot : Option RootSetting}
    {d : Directive} (h : d ∈ (template digest childDigest childRoot).directives) :
    d = .attribute { name := "id" } ∨
      d = .child (.member "c") childRoot {} (childTemplate childDigest) := by
  rcases List.mem_cons.1 h with rfl | h
  · exact Or.inl rfl
  · exact Or.inr (List.mem_singleton.1 h)

/-- A result for an object or for one of its children, or the document of either. -/
def Member (S : Setting) (digest childDigest : String) (childRoot : Option RootSetting)
    (plans : List Plan) : Part → Prop
  | .result t plan =>
    (t = template digest childDigest childRoot ∧ plan ∈ plans) ∨
      (t = childTemplate childDigest ∧ plan ∈ plans.flatMap fun p =>
        childPlans S p.item p.filter (.member "c") childRoot)
  | .document t object f =>
    (t = template digest childDigest childRoot ∧ ∃ p ∈ plans, p.item = object ∧ p.filter = f) ∨
      t = childTemplate childDigest

/-- The template has children, which have none; nothing is glued or extended. -/
theorem Member.of_reachedFrom {S : Setting} {load : String → Except BuildError Template}
    {digest childDigest : String} {childRoot : Option RootSetting} {plans : List Plan}
    {part : Part} (h : ReachedFrom S load (fun t plan =>
      t = template digest childDigest childRoot ∧ plan ∈ plans) part) :
    Member S digest childDigest childRoot plans part := by
  induction h with
  | start h => exact Or.inl h
  | plan _ ih =>
    rcases ih with ⟨rfl, hm⟩ | ⟨rfl, -⟩
    · exact Or.inl ⟨rfl, _, hm, rfl, rfl⟩
    · exact Or.inr rfl
  | child _ hd hplan ih =>
    rcases ih with ⟨rfl, p, hm, rfl, rfl⟩ | rfl
    · rcases eq_or_eq_of_mem_template hd with hd | hd
      · cases hd
      · cases hd
        exact Or.inr ⟨rfl, List.mem_flatMap.2 ⟨p, hm, hplan⟩⟩
    · cases eq_of_mem_childTemplate hd
  | glue _ hd _ ih =>
    rcases ih with ⟨rfl, -⟩ | rfl
    · rcases eq_or_eq_of_mem_template hd with hd | hd <;> cases hd
    · cases eq_of_mem_childTemplate hd
  | extend _ hd _ _ ih =>
    rcases ih with ⟨rfl, -⟩ | rfl
    · rcases eq_or_eq_of_mem_template hd with hd | hd <;> cases hd
    · cases eq_of_mem_childTemplate hd

/-- Only the plans of the list and those of the children are asked for. -/
theorem asked {list : ListBuild} {S : Setting} {store : Store MemoryCache}
    {digest childDigest : String} {childRoot : Option RootSetting}
    (hl : list.template = template digest childDigest childRoot) {plans : List Plan}
    (hp : Plan.ofItems list.elementRoot list.collection list.filter list.items = plans)
    {t : Template} {plan : Plan} (h : list.Asked S store t plan) :
    (t = template digest childDigest childRoot ∧ plan ∈ plans) ∨
      (t = childTemplate childDigest ∧ plan ∈ plans.flatMap fun p =>
        childPlans S p.item p.filter (.member "c") childRoot) := by
  rw [ListBuild.Asked, hl, hp] at h
  exact Member.of_reachedFrom h

theorem fullDigest_eq (S : Setting) (store : Store MemoryCache) (digest childDigest : String)
    (childRoot : Option RootSetting) :
    store.fullDigest S (template digest childDigest childRoot) = digest ∧
      store.fullDigest S (childTemplate childDigest) = childDigest :=
  ⟨store.fullDigest_eq_digest rfl, store.fullDigest_eq_digest rfl⟩

/-- Templates with different digests are identified, so only objects and filters are left. -/
theorem partsIdentify {list : ListBuild} {S : Setting} {store : Store MemoryCache}
    {digest childDigest : String} {childRoot : Option RootSetting} {plans : List Plan}
    (hne : digest ≠ childDigest)
    (hasked : ∀ {t plan}, list.Asked S store t plan → plan ∈ plans ∧
      (t = template digest childDigest childRoot ∨ t = childTemplate childDigest))
    (ho : ∀ p ∈ plans, ∀ q ∈ plans, ∀ key, p.item.contentKey? = some key →
      q.item.contentKey? = some key → p.item = q.item)
    (hf : ∀ p ∈ plans, ∀ q ∈ plans, ∀ f f', p.filter = some f → q.filter = some f' →
      f.query = f'.query → f.fields = f'.fields) :
    CacheKey.PartsIdentify (store.fullDigest S) (list.Asked S store) where
  objects := fun ha ha' => ho _ (hasked ha).1 _ (hasked ha').1 _
  filters := fun ha ha' => hf _ (hasked ha).1 _ (hasked ha').1 _ _
  templates := by
    obtain ⟨hd, hd'⟩ := fullDigest_eq S store digest childDigest childRoot
    intro t t' plan plan' ha ha' h
    rcases (hasked ha).2 with rfl | rfl <;> rcases (hasked ha').2 with rfl | rfl
    · rfl
    · rw [hd, hd'] at h
      exact absurd h hne
    · rw [hd, hd'] at h
      exact absurd h.symm hne
    · rfl

end Family

/-- A list with an element twice, whose child is there twice too, on a cache with an expired entry
for this element and a stale one for another. -/
theorem run_withBulkReads_stale :
    let S : Setting := ⟨{ caching := true }, .empty, .nowhere, id⟩
    let cat := Data.record none (some "pets/1") [("name", .string "cat")]
    let leo := Data.record none (some "users/1")
      [("id", .string "leo"), ("c", .list none [cat, cat])]
    let ida := Data.record none (some "users/2") [("id", .string "ida")]
    let list : ListBuild :=
      ⟨Family.template "outer" "inner" none, .enabled false, none, none, [leo, ida, leo]⟩
    let key (object : String) : CacheKey := ⟨none, object, none, .json, "outer"⟩
    let store : Store MemoryCache := { cache := some {
      entries := [(key "users/1", ⟨.null, some 0⟩), (key "users/2", ⟨.string "stale", none⟩)] } }
    let pet := Value.document [("name", .string "cat")]
    let user := Value.document [("id", .string "leo"), ("c", .array [pet, pet])]
    let together := list.run (S.withBulkReads true) {} 3 store
    let singly := list.run (S.withBulkReads false) {} 3 store
    CacheKey.PartsIdentify (store.fullDigest S) (list.Asked S store) ∧
      CacheKey.TellDigests (store.fullDigest S) (list.Asked S store) ∧
      together.1 = .ok [user, .string "stale", user] ∧
      together.1 = singly.1 ∧ ∀ key, together.2.reading key = singly.2.reading key := by
  intro S cat leo ida list key store pet user together singly
  have hasked : ∀ {t plan}, list.Asked S store t plan →
      plan ∈ [(⟨leo, none, none⟩ : Plan), ⟨ida, none, none⟩, ⟨cat, none, none⟩] ∧
        (t = Family.template "outer" "inner" none ∨ t = Family.childTemplate "inner") := by
    intro t plan h
    rcases Family.asked rfl rfl h with ⟨ht, hm⟩ | ⟨ht, hm⟩
    · change plan ∈ [(⟨leo, none, none⟩ : Plan), ⟨ida, none, none⟩, ⟨leo, none, none⟩] at hm
      simp only [List.mem_cons, List.not_mem_nil, or_false] at hm ⊢
      exact ⟨by tauto, Or.inl ht⟩
    · change plan ∈ List.replicate 4 (⟨cat, none, none⟩ : Plan) at hm
      rw [(List.mem_replicate.1 hm).2]
      exact ⟨by simp, Or.inr ht⟩
  have hi : CacheKey.PartsIdentify (store.fullDigest S) (list.Asked S store) := by
    refine Family.partsIdentify (by decide) hasked ?_ ?_
    · simp [leo, ida, cat, Data.contentKey?]
    · simp
  have ht : CacheKey.TellDigests (store.fullDigest S) (list.Asked S store) := by
    intro t t' plan plan' ha ha' hd
    have hnone : ∀ {t plan}, list.Asked S store t plan → plan.filter = none := by
      intro t plan ha
      have hm := (hasked ha).1
      simp only [List.mem_cons, List.not_mem_nil, or_false] at hm
      rcases hm with rfl | rfl | rfl <;> rfl
    rwa [hnone ha, hnone ha'] at hd
  exact ⟨hi, ht, by rfl, run_withBulkReads list S {} 3 rfl hi ht⟩

/-- Where a digest is another one with a query behind it, reading together and one by one differ:
the plain name of the second element is stored under the key of its full result before that key is
read. -/
theorem not_run_withBulkReads_barred :
    let S : Setting := ⟨{ caching := true }, .empty, .nowhere, id⟩
    let leo := Data.record (some "user") (some "1") [("id", .string "1"), ("name", .string "leo")]
    let team := Data.record none none [("c", .list (some "c") [leo])]
    let named := Filter.mk (some "c") [.mk "name" [] none]
    let f := Filter.mk none [.mk "user" [] none, .mk "c" [] (some named)]
    let list : ListBuild :=
      ⟨Family.template "v1|name" "v1" (some (.named "user")), .enabled true, none, some f,
        [team, leo]⟩
    let store : Store MemoryCache := { cache := some {} }
    let first := Value.document [("c", .array [.document [("user", .document
      [("name", .string "leo")])]])]
    let together := list.run (S.withBulkReads true) {} 3 store
    let singly := list.run (S.withBulkReads false) {} 3 store
    CacheKey.PartsIdentify (store.fullDigest S) (list.Asked S store) ∧
      together.1 = .ok [first, .document [("user", .document [("id", .string "1")])]] ∧
      singly.1 = .ok [first, .document [("user", .document [("name", .string "leo")])]] ∧
      together.1 ≠ singly.1 := by
  intro S leo team named f list store first together singly
  have hasked : ∀ {t plan}, list.Asked S store t plan →
      plan ∈ [(⟨team, none, some f⟩ : Plan), ⟨leo, some "user", none⟩,
          ⟨leo, some "user", some named⟩] ∧
        (t = Family.template "v1|name" "v1" (some (.named "user")) ∨
          t = Family.childTemplate "v1") := by
    intro t plan h
    rcases Family.asked rfl rfl h with ⟨ht, hm⟩ | ⟨ht, hm⟩
    · change plan ∈ [(⟨team, none, some f⟩ : Plan), ⟨leo, some "user", none⟩] at hm
      simp only [List.mem_cons, List.not_mem_nil, or_false] at hm ⊢
      exact ⟨by tauto, Or.inl ht⟩
    · change plan ∈ [(⟨leo, some "user", some named⟩ : Plan)] at hm
      rw [List.mem_singleton.1 hm]
      exact ⟨by simp, Or.inr ht⟩
  have htogether :
      together.1 = .ok [first, .document [("user", .document [("id", .string "1")])]] := by rfl
  have hsingly :
      singly.1 = .ok [first, .document [("user", .document [("name", .string "leo")])]] := by rfl
  refine ⟨Family.partsIdentify (by decide) hasked ?_ ?_, htogether, hsingly, ?_⟩
  · simp [team, leo, Data.contentKey?]
  · have hq : f.query ≠ named.query := by decide
    simp [hq, hq.symm]
  · rw [htogether, hsingly]
    simp

end ListBuild

end DocumentTemplates
