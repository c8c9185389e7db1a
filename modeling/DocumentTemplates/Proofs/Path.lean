import DocumentTemplates.Path
import Mathlib.Data.List.Basic
import Mathlib.Data.List.TakeWhile
import Mathlib.Logic.Function.Basic

/-!
# Where paths lead

Two spellings of a path are the same path when they lead to one place. A relative path that is
joined to a directory leads to the place of its segments below the directory's place, whichever of
the two brings the slash between them; only the empty directory is seen differently by different
paths, for a point at the start of a path counts there. A path that has a file name spells it behind
its last slash that counts. So other file names and extensions change the last segment and nothing
in front of it.
-/

namespace DocumentTemplates.Path

/-! ## Segments of texts -/

/-- The segments of a text that count, whatever stands in front of the text. -/
def counted (cs : List Char) : List (List Char) :=
  (splitSlashes cs).filter fun segment => segment ≠ [] && segment ≠ ['.']

/-- True of texts whose first segment is the point at the start of a relative path. -/
def startsHere (cs : List Char) : Bool :=
  (splitSlashes cs).head? = some ['.']

theorem splitSlashes_ne_nil (cs : List Char) : splitSlashes cs ≠ [] := by
  cases cs with
  | nil => exact List.cons_ne_nil [] []
  | cons c rest =>
    rw [splitSlashes]
    split
    · exact List.cons_ne_nil _ _
    · split <;> exact List.cons_ne_nil _ _

theorem splitSlashes_append (front rest : List Char) :
    splitSlashes (front ++ '/' :: rest) = splitSlashes front ++ splitSlashes rest := by
  induction front with
  | nil => rfl
  | cons c front ih =>
    rw [List.cons_append, splitSlashes, splitSlashes, ih]
    split
    · rfl
    · cases h : splitSlashes front with
      | nil => exact absurd h (splitSlashes_ne_nil front)
      | cons segment segments => rfl

theorem splitSlashes_of_slashFree {cs : List Char} (h : '/' ∉ cs) : splitSlashes cs = [cs] := by
  induction cs with
  | nil => rfl
  | cons c cs ih =>
    have hc : c ≠ '/' := fun hc => h (hc ▸ List.mem_cons_self)
    rw [splitSlashes, if_neg hc, ih (fun hcs => h (List.mem_cons_of_mem c hcs))]

theorem counted_append (front rest : List Char) :
    counted (front ++ '/' :: rest) = counted front ++ counted rest := by
  rw [counted, splitSlashes_append, List.filter_append]
  rfl

theorem startsHere_append (front rest : List Char) :
    startsHere (front ++ '/' :: rest) = startsHere front := by
  rw [startsHere, splitSlashes_append, List.head?_append_of_ne_nil _ (splitSlashes_ne_nil front)]
  rfl

theorem segments_eq (path : String) :
    segments path = ((if startsHere path.toList then [['.']] else []) ++
      counted path.toList).map String.ofList := by
  simp only [segments, startsHere, counted, decide_eq_true_eq]

/-! ## Places -/

/-- Where a path leads: from the root or from where one stands, and along which segments. -/
def place (path : String) : Bool × List String :=
  (isAbsolute path, segments path)

theorem same_iff {a b : String} : same a b = true ↔ place a = place b := by
  simp [same, place]

theorem same_eq_false_iff {a b : String} : same a b = false ↔ place a ≠ place b := by
  rw [← Bool.not_eq_true, same_iff]

/-- The place to which a path leads from another place. -/
def below (path : String) (outer : Bool × List String) : Bool × List String :=
  (outer.1, outer.2 ++ (counted path.toList).map String.ofList)

theorem below_injective (path : String) : Function.Injective (below path) := by
  rintro ⟨absolute₁, outer₁⟩ ⟨absolute₂, outer₂⟩ h
  obtain ⟨habsolute, houter⟩ := Prod.mk.inj h
  exact Prod.ext habsolute (List.append_cancel_right houter)

/-- The directory as a path joined to it sees it. The empty directory becomes the point with which
the path begins, if it begins with one. -/
def seenFrom (path directory : String) : String :=
  if directory.isEmpty && startsHere path.toList then "." else directory

theorem seenFrom_congr {path other : String}
    (h : startsHere path.toList = startsHere other.toList) : seenFrom path = seenFrom other := by
  funext directory
  rw [seenFrom, seenFrom, h]

/-- A directory has the slash at its end or is given one: the segments are the same. -/
theorem join_of_ne_empty {directory path : String} (hpath : isAbsolute path = false)
    (hdirectory : directory ≠ "") :
    ∃ outer, (join directory path).toList = outer ++ '/' :: path.toList ∧
      (outer ++ ['/']).head? = directory.toList.head? ∧
      counted outer = counted directory.toList ∧
      startsHere outer = startsHere directory.toList := by
  have hempty : directory.isEmpty = false := by simpa using hdirectory
  rw [join, hpath, hempty]
  by_cases hlast : directory.toList.getLast? = some '/'
  · obtain ⟨outer, houter⟩ := List.getLast?_eq_some_iff.1 hlast
    have hcounted : counted (outer ++ ['/']) = counted outer := by
      rw [counted_append]
      exact List.append_nil _
    refine ⟨outer, by simp [houter], by rw [houter], ?_, ?_⟩
    · rw [houter, hcounted]
    · rw [houter, startsHere_append]
  · have hne : directory.toList ≠ [] := by simpa using hdirectory
    exact ⟨directory.toList, by simp [hlast], List.head?_append_of_ne_nil _ hne, rfl, rfl⟩

/-- A relative path joined to a directory leads from the directory's place along its own segments. -/
theorem place_join {path : String} (hpath : isAbsolute path = false) (directory : String) :
    place (join directory path) = below path (place (seenFrom path directory)) := by
  by_cases hdirectory : directory = ""
  · have hjoin : join "" path = path := by simp [join]
    subst hdirectory
    rw [hjoin, place, hpath, segments_eq, seenFrom]
    cases startsHere path.toList <;> simp [below, place, isAbsolute, segments_eq, counted,
      startsHere, splitSlashes]
  · obtain ⟨outer, hjoin, hhead, hcounted, hstarts⟩ := join_of_ne_empty hpath hdirectory
    have hseen : seenFrom path directory = directory := by simp [seenFrom, hdirectory]
    have habsolute : isAbsolute (join directory path) = isAbsolute directory := by
      have hfront : (outer ++ '/' :: path.toList).head? = (outer ++ ['/']).head? := by
        cases outer <;> rfl
      rw [isAbsolute, isAbsolute, hjoin, hfront, hhead]
    rw [hseen, place, habsolute, segments_eq, hjoin, startsHere_append, counted_append, hstarts,
      hcounted, ← List.append_assoc, List.map_append, ← segments_eq]
    rfl

/-! ## File names -/

/-- Texts at the end of a path that count for nothing. -/
inductive Idle : List Char → Prop where
  | nil : Idle []
  | slash {rest : List Char} : counted rest = [] → Idle ('/' :: rest)

/-- Texts in front of a file name: none, or those that end with a slash. -/
inductive Front : List Char → Prop where
  | nil : Front []
  | slash (outer : List Char) : Front (outer ++ ['/'])

/-- Texts that are one segment, and one that counts. -/
structure Named (file : List Char) : Prop where
  slashFree : '/' ∉ file
  ne_nil : file ≠ []
  ne_point : file ≠ ['.']

/-- A path spelled with a file name behind a text. -/
def Spells (path : List Char) (front file : List Char) : Prop :=
  Front front ∧ Named file ∧ ∃ idle, Idle idle ∧ path = front ++ file ++ idle

section

variable {front file idle cs rest path : List Char}

theorem Idle.append (hidle : Idle idle) (hrest : counted rest = []) : Idle (idle ++ '/' :: rest) := by
  cases hidle with
  | nil => exact .slash hrest
  | slash h =>
    rw [List.cons_append]
    refine .slash ?_
    rw [Path.counted_append, h, hrest]
    rfl

theorem Idle.counted_append (hidle : Idle idle) (cs : List Char) :
    counted (cs ++ idle) = counted cs := by
  cases hidle with
  | nil => rw [List.append_nil]
  | slash h => rw [Path.counted_append, h, List.append_nil]

theorem Idle.startsHere_append (hidle : Idle idle) (cs : List Char) :
    startsHere (cs ++ idle) = startsHere cs := by
  cases hidle with
  | nil => rw [List.append_nil]
  | slash h => exact Path.startsHere_append cs _

theorem Named.counted (h : Named file) : counted file = [file] := by
  simp [Path.counted, splitSlashes_of_slashFree h.slashFree, h.ne_nil, h.ne_point]

theorem Named.startsHere (h : Named file) : startsHere file = false := by
  simp [Path.startsHere, splitSlashes_of_slashFree h.slashFree, h.ne_point]

theorem Named.head?_ne_slash (h : Named file) : file.head? ≠ some '/' :=
  fun hhead => h.slashFree (List.mem_of_mem_head? hhead)

theorem Spells.counted (h : Spells path front file) : counted path = counted front ++ [file] := by
  obtain ⟨hfront, hfile, idle, hidle, rfl⟩ := h
  rw [hidle.counted_append]
  cases hfront with
  | nil => exact hfile.counted
  | slash outer =>
    rw [List.append_assoc, List.singleton_append, counted_append, counted_append, hfile.counted]
    exact congrArg (· ++ [file]) (List.append_nil _).symm

theorem Spells.startsHere (h : Spells path front file) : startsHere path = startsHere front := by
  obtain ⟨hfront, hfile, idle, hidle, rfl⟩ := h
  rw [hidle.startsHere_append]
  cases hfront with
  | nil => exact hfile.startsHere
  | slash outer =>
    rw [List.append_assoc, List.singleton_append, startsHere_append, startsHere_append]

theorem Spells.head? (h : Spells path front file) :
    path.head? = some '/' ↔ front.head? = some '/' := by
  obtain ⟨hfront, hfile, idle, hidle, rfl⟩ := h
  cases hfront with
  | nil =>
    rw [List.nil_append, List.head?_append_of_ne_nil _ hfile.ne_nil]
    exact iff_of_false hfile.head?_ne_slash (by simp)
  | slash outer => cases outer <;> simp

theorem Spells.isAbsolute {path : String} (h : Spells path.toList front file) :
    isAbsolute path = decide (front.head? = some '/') :=
  decide_eq_decide.2 h.head?

theorem dropIdleEnd_spec (reversed : List Char) :
    ∃ idle, Idle idle ∧ reversed.reverse = (dropIdleEnd reversed).reverse ++ idle := by
  induction reversed using dropIdleEnd.induct with
  | case1 rest ih =>
    obtain ⟨idle, hidle, h⟩ := ih
    refine ⟨idle ++ ['/'], hidle.append rfl, ?_⟩
    rw [List.reverse_cons, h, dropIdleEnd, List.append_assoc]
  | case2 rest ih =>
    obtain ⟨idle, hidle, h⟩ := ih
    refine ⟨idle ++ ['/', '.'], hidle.append rfl, ?_⟩
    rw [List.reverse_cons, List.reverse_cons, h, dropIdleEnd]
    simp
  | case3 cs hslash hpoint =>
    refine ⟨[], .nil, ?_⟩
    rw [dropIdleEnd.eq_3 cs hslash hpoint, List.append_nil]

theorem front_dropWhile (reversed : List Char) :
    Front (reversed.dropWhile (· ≠ '/')).reverse := by
  cases h : reversed.dropWhile (· ≠ '/') with
  | nil => exact .nil
  | cons c rest =>
    have hhead := List.head?_dropWhile_not (· ≠ '/') reversed
    rw [h] at hhead
    have hc : c = '/' := by simpa using hhead
    rw [hc, List.reverse_cons]
    exact .slash rest.reverse

theorem split?_spells {path : String} (h : split? path = some (front, file)) :
    Spells path.toList front file := by
  obtain ⟨idle, hidle, htext⟩ := dropIdleEnd_spec path.toList.reverse
  rw [List.reverse_reverse] at htext
  simp only [split?] at h
  generalize dropIdleEnd path.toList.reverse = kept at h htext
  split at h
  · cases h
  · rename_i hnamed
    obtain ⟨rfl, rfl⟩ := Prod.mk.inj (Option.some.inj h)
    simp only [Bool.or_eq_true, decide_eq_true_eq, not_or] at hnamed
    have hslash : '/' ∉ (kept.takeWhile (· ≠ '/')).reverse := fun hmem => by
      simpa using List.mem_takeWhile_imp (List.mem_reverse.1 hmem)
    refine ⟨front_dropWhile kept, ⟨hslash, hnamed.1.1, hnamed.1.2⟩, idle, hidle, ?_⟩
    rw [htext, ← List.reverse_append, List.takeWhile_append_dropWhile]

end

/-! ## The last segment -/

/-- The first letter of the last segment that counts. -/
def initial (path : String) : Option Char :=
  (counted path.toList).getLast?.bind List.head?

theorem Spells.initial {path : String} {front file : List Char}
    (h : Spells path.toList front file) : initial path = file.head? := by
  rw [Path.initial, h.counted, List.getLast?_concat]
  rfl

theorem initial_below {path : String} {c : Char} (h : initial path = some c)
    (outer : Bool × List String) :
    ((below path outer).2.getLast?.bind fun segment => segment.toList.head?) = some c := by
  obtain ⟨file, hfile, hhead⟩ := Option.bind_eq_some_iff.1 h
  simp [below, hfile, hhead]

theorem withDefaultExtension_spells {path extension : String} {front file : List Char}
    (hextension : '/' ∉ extension.toList) (h : split? path = some (front, file)) :
    ∃ newFile, Spells (withDefaultExtension path extension).toList front newFile ∧
      newFile.head? = file.head? := by
  obtain ⟨hfront, hfile, idle, hidle, htext⟩ := split?_spells h
  rw [withDefaultExtension, h]
  dsimp only
  split
  · exact ⟨file, ⟨hfront, hfile, idle, hidle, htext⟩, rfl⟩
  · refine ⟨file ++ '.' :: extension.toList, ⟨hfront, ⟨?_, ?_, ?_⟩, [], .nil, ?_⟩, ?_⟩
    · simp [hfile.slashFree, hextension]
    · simp
    · -- the file name in front of the point is not empty
      obtain ⟨c, cs, rfl⟩ := List.exists_cons_of_ne_nil hfile.ne_nil
      simp
    · simp
    · exact List.head?_append_of_ne_nil _ hfile.ne_nil

/-- An extension changes neither where a path starts nor the first letter of its last segment. -/
theorem withDefaultExtension_keeps (path : String) {extension : String}
    (hextension : '/' ∉ extension.toList) :
    isAbsolute (withDefaultExtension path extension) = isAbsolute path ∧
      startsHere (withDefaultExtension path extension).toList = startsHere path.toList ∧
      initial (withDefaultExtension path extension) = initial path := by
  cases h : split? path with
  | none => simp [withDefaultExtension, h]
  | some parts =>
    obtain ⟨front, file⟩ := parts
    have hold := split?_spells h
    obtain ⟨newFile, hnew, hhead⟩ := withDefaultExtension_spells hextension h
    refine ⟨?_, ?_, ?_⟩
    · rw [hnew.isAbsolute, hold.isAbsolute]
    · rw [hnew.startsHere, hold.startsHere]
    · rw [hnew.initial, hold.initial, hhead]

theorem withFileName_spells {path file : String} {front old : List Char}
    (h : split? path = some (front, old)) (hfile : Named file.toList) :
    ∃ newFront, Spells (withFileName path file).toList newFront file.toList ∧
      (newFront.head? = some '/' ↔ front.head? = some '/') ∧
      startsHere newFront = startsHere front := by
  have hrelative : isAbsolute file = false := by simpa [isAbsolute] using hfile.head?_ne_slash
  obtain ⟨idle, hidle, hfront⟩ := dropIdleEnd_spec front.reverse
  rw [List.reverse_reverse] at hfront
  rw [withFileName, h, (split?_spells h).isAbsolute]
  dsimp only
  generalize (dropIdleEnd front.reverse).reverse = directory at hfront
  have hstarts : startsHere front = startsHere directory := hfront ▸ hidle.startsHere_append _
  have hnamed {newFront : List Char} (hnew : Front newFront) :
      Spells (newFront ++ file.toList) newFront file.toList :=
    ⟨hnew, hfile, [], .nil, (List.append_nil _).symm⟩
  by_cases hne : directory = []
  · subst hne
    by_cases habsolute : front.head? = some '/'
    · refine ⟨['/'], ?_, ?_, ?_⟩
      · simpa [habsolute] using hnamed (.slash [])
      · simp [habsolute]
      · rw [hstarts]
        rfl
    · refine ⟨[], ?_, ?_, ?_⟩
      · simpa [habsolute, join, hrelative] using hnamed .nil
      · simp [habsolute]
      · rw [hstarts]
  · have hnonempty : String.ofList directory ≠ "" := by simpa using hne
    obtain ⟨outer, hjoin, hhead, -, houter⟩ := join_of_ne_empty hrelative hnonempty
    rw [String.toList_ofList] at hhead houter
    refine ⟨outer ++ ['/'], ?_, ?_, ?_⟩
    · simpa [hne, hjoin] using hnamed (.slash outer)
    · rw [hhead, hfront, List.head?_append_of_ne_nil _ hne]
    · rw [startsHere_append, houter, hstarts]

/-- Another file name changes the last segment, not where a path starts. -/
theorem withFileName_keeps {path file : String} {front old : List Char}
    (h : split? path = some (front, old)) (hfile : Named file.toList) :
    isAbsolute (withFileName path file) = isAbsolute path ∧
      startsHere (withFileName path file).toList = startsHere path.toList ∧
      initial (withFileName path file) = file.toList.head? := by
  have hold := split?_spells h
  obtain ⟨newFront, hnew, hhead, hstarts⟩ := withFileName_spells h hfile
  refine ⟨?_, ?_, hnew.initial⟩
  · rw [hnew.isAbsolute, hold.isAbsolute, decide_eq_decide, hhead]
  · rw [hnew.startsHere, hold.startsHere, hstarts]

end DocumentTemplates.Path
