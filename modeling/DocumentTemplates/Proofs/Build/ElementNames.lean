import DocumentTemplates.Proofs.Build.Elementwise
import DocumentTemplates.Proofs.Inflection.Recovery

/-!
# The names of elements

A list without a name of its own is named after the kind of its first element, in the plural, and
its elements are wrapped under the singular of that name. For the recoverable words this is the
kind again; for the others it is another word.
-/

namespace DocumentTemplates

open Inflection

/-- A list without name is named by the plural of its first element's kind. -/
theorem deriveName?_list {elements : List Data} {kind : String}
    (hkind : elements.head?.bind Data.kind? = some kind) :
    deriveName? none (.list none elements) none = some (pluralize kind) := by
  rw [deriveName?, hkind]
  rfl

/-- An object in a list with a name is named by its singular. -/
theorem deriveName?_object {object : Data} (ho : object.isObject = true) (collection : String) :
    deriveName? none object (some collection) = some (singularize collection) := by
  cases object with
  | null => cases ho
  | list _ _ => cases ho
  | _ => rfl

/-- The array of the results, wrapped under the root if there is one. -/
def Value.arrayUnder (root : Option String) (results : List Value) : Value :=
  match root with
  | some root => .document (Document.single root (.array results))
  | none => .array results

namespace Strategy

/-- The items of a list with a name are wrapped, where they are objects, under its singular. -/
theorem compute_ofItem (document : Template → Data → Option Filter → Except BuildError Document)
    (t : Template) (collection : String) (f : Option Filter) {item : Data}
    (ho : item.isObject = true) :
    compute document t (.ofItem (.enabled true) (some collection) f item) =
      (document t item (Filter.scoped f (some (singularize collection)))).map fun doc =>
        .document (Document.wrap doc (singularize collection)) := by
  simp only [Plan.ofItem, deriveName?_object ho, compute, bind_pure_comp]
  rfl

/-- The build of a list is that of its items, under the list's name and root. -/
theorem build_list_items {load : String → Except BuildError Template} (S : Setting)
    (options : BuildOptions) (t : Template) {own : Option String} {elements : List Data}
    {name : Option String} (hname : deriveName? none (.list own elements) none = name) :
    let root := (options.root.getD S.config.root).resolve? name
    let f := options.activeFilter
    let field := f.bind fun f => root.bind fun root => f.field? root
    (loading load).build S options t (.list own elements) =
      ((loading load).items S ((loading load).document S) t options.elementRoot name
        (Filter.scoped f root) (FilterField.selectItems field elements)).map
          (Value.arrayUnder root) := by
  subst hname
  rfl

/-- The results of the items are kept as the setting says. -/
theorem build_list {load : String → Except BuildError Template} (S : Setting)
    (options : BuildOptions) (t : Template) {own : Option String} {elements : List Data}
    {name : String}
    (hname : deriveName? none (.list own elements) none = some name) :
    let root := (options.root.getD S.config.root).resolve? (some name)
    let f := options.activeFilter
    let field := f.bind fun f => root.bind fun root => f.field? root
    (loading load).build S options t (.list own elements) =
      ((FilterField.selectItems field elements).mapM fun item =>
        compute ((loading load).document S) t
          (.ofItem options.elementRoot (some name) (Filter.scoped f root) item)).map
            fun results => .arrayUnder root (S.kept results) := by
  intro root f field
  rw [build_list_items S options t hname, items_loading]
  generalize (FilterField.selectItems field elements).mapM (m := Except BuildError) _ = results
  cases results <;> rfl

end Strategy

/-- The objects in a list that has no name, its first element of kind `word`, are planned under the
singular of the plural of `word`, whatever items a filter leaves, and where no results are kept they
are wrapped under it. It is `word` itself for the recoverable words and for no others. -/
theorem StoreBuild.elements_wrapped {σ : Type} [ResultCache σ] {word : String}
    (hword : '_' ∉ word.toList) :
    let name := singularize (pluralize word)
    (name = word ↔ Recoverable word) ∧
      ∀ (S : Setting) (options : BuildOptions) (t : Template) (elements : List Data),
        elements.head?.bind Data.kind? = some word →
        let data := Data.list none elements
        let wrapping := options.withElementRoot (.enabled true)
        (∀ f items, ∀ plan ∈ Plan.ofItems (.enabled true) (deriveName? none data none) f items,
          plan.item.isObject = true → plan.root = some name) ∧
        ∀ store : Store σ, store.Uncached S →
          let root := (options.root.getD S.config.root).resolve? (some (pluralize word))
          let f := options.activeFilter
          let field := f.bind fun f => root.bind fun root => f.field? root
          ∃ outcome : Data → Except BuildError Value,
            (∀ element, element.isObject = true →
              outcome element = ((Strategy.loading (store.load S)).document S t element
                (Filter.scoped (Filter.scoped f root) (some name))).map
                  fun doc => .document (Document.wrap doc name)) ∧
            ((Strategy.stored S wrapping).build S wrapping t data |>.runOn store).1 =
              ((FilterField.selectItems field elements).mapM outcome).map
                fun results => .arrayUnder root (S.kept results) := by
  intro name
  refine ⟨singularize_pluralize_iff hword, ?_⟩
  intro S options t elements hkind data wrapping
  have hderived : deriveName? none data none = some (pluralize word) := deriveName?_list hkind
  constructor
  · intro f items plan hplan hobject
    rw [hderived] at hplan
    obtain ⟨item, -, rfl⟩ := List.mem_map.1 hplan
    exact deriveName?_object hobject (pluralize word)
  · intro store hu root f field
    let document := (Strategy.loading (store.load S)).document S
    let outcome (item : Data) : Except BuildError Value :=
      Strategy.compute document t
        (.ofItem (.enabled true) (some (pluralize word)) (Filter.scoped f root) item)
    refine ⟨outcome, fun element ho => ?_, ?_⟩
    · exact Strategy.compute_ofItem document t (pluralize word) (Filter.scoped f root) ho
    · rw [Strategy.runOn_stored_build_of_uncached wrapping t data hu]
      exact Strategy.build_list S wrapping t hderived

/-- Users, a user of no kind and a null between them: only what is null is not wrapped. -/
theorem StoreBuild.elements_wrapped_users :
    let S : Setting := ⟨{}, .empty, .nowhere, id⟩
    let t := Template.mk none [.attribute { name := "id" }] "t"
    let users := [Data.record (some "user") none [("id", .integer 1)], .null,
      .record none none [("id", .integer 2)]]
    let wrapping : BuildOptions := BuildOptions.withElementRoot {} (.enabled true)
    let store : Store MemoryCache := {}
    let built := ((Strategy.stored S wrapping).build S wrapping t (.list none users)
      |>.runOn store).1
    let user (id : Int64) := Value.document [("user", .document [("id", .integer id)])]
    ('_' ∉ "user".toList ∧ users.head?.bind Data.kind? = some "user" ∧ store.Uncached S) ∧
      singularize (pluralize "user") = "user" ∧
      (∀ plan ∈ Plan.ofItems (.enabled true) (deriveName? none (.list none users) none) none users,
        plan.item.isObject = true → plan.root = some (singularize (pluralize "user"))) ∧
      (∃ outcome : Data → Except BuildError Value, built = (users.mapM outcome).map
        fun results => .arrayUnder none (S.kept results)) ∧
      built = .ok (.array [user 1, .document [], user 2]) := by
  intro S t users wrapping store built user
  have hword : '_' ∉ "user".toList := by decide
  have hu : store.Uncached S := .inl rfl
  have hnames := @StoreBuild.elements_wrapped MemoryCache _ "user" hword
  obtain ⟨hplans, hbuilt⟩ := hnames.2 S {} t users rfl
  obtain ⟨outcome, -, hbuilt⟩ := hbuilt store hu
  exact ⟨⟨hword, rfl, hu⟩, hnames.1.2 (by decide +kernel), hplans none users, ⟨outcome, hbuilt⟩, rfl⟩

/-- A bus in a list of buses is wrapped as a `buse`. -/
theorem StoreBuild.not_elements_wrapped_bus :
    let S : Setting := ⟨{}, .empty, .nowhere, id⟩
    let t := Template.mk none [.attribute { name := "id" }] "t"
    let options : BuildOptions :=
      { root := some (.enabled true), objectRoot := some (.enabled true) }
    let buses := [Data.record (some "bus") none [("id", .integer 1)]]
    let built := ((Strategy.stored S options).build S options t (.list none buses)
      |>.runOn ({} : Store MemoryCache)).1
    "bus".toList.all Char.isLower = true ∧ "bus" ∉ irregulars.map Prod.snd ∧
      ¬ singularize (pluralize "bus") = "bus" ∧
      built = .ok (.document [("buses",
        .array [.document [("buse", .document [("id", .integer 1)])]])]) := by
  exact ⟨by decide, by decide, by decide, rfl⟩

end DocumentTemplates
