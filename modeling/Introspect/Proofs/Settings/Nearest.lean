import Mathlib.Data.List.Infix
import Introspect.Proofs.Settings.Contents

/-!
# The nearest configuration file

An inspection takes its settings from the nearest directory, at or above the place where it starts,
that holds a configuration file.  What stands farther up or anywhere else makes no difference, also
when the nearest file has no settings to give.

* `Path.mem_upward_iff`          the places at or above a place are its beginnings;
* `Directory.NearestAt`          where the nearest file of a name stands, and what it holds;
* `Directory.nearest?_eq_some_iff`, `Directory.nearest?_eq_none_iff`   what a search upwards finds;
* `Settings.loadFrom_nearest`    loading depends on the nearest file only, and a file without
                                 settings, or none at all, gives the defaults; bytes that are no
                                 text, a text that exceeds a limit, and anything but a table in
                                 place of the settings end it.
-/

namespace Introspect

/-! ## Places at or above a place -/

namespace Path

theorem upward_eq (path : Path) : path.upward = path.inits.reverse := by
  induction path with
  | nil => rfl
  | cons name rest ih =>
    rw [upward, ih, List.inits_cons, List.reverse_cons, List.map_reverse]

theorem mem_upward_iff {place path : Path} : place ∈ path.upward ↔ place <+: path := by
  rw [upward_eq, List.mem_reverse, List.mem_inits]

/-- the nearer places come first -/
theorem pairwise_upward (path : Path) :
    path.upward.Pairwise fun near far => far.length < near.length := by
  induction path with
  | nil => exact List.pairwise_singleton _ _
  | cons name rest ih =>
    refine List.pairwise_append.mpr ⟨?_, List.pairwise_singleton _ _, ?_⟩
    · exact List.pairwise_map.mpr (ih.imp Nat.succ_lt_succ)
    · intro near hnear far hfar
      obtain ⟨q, -, rfl⟩ := List.mem_map.mp hnear
      rw [List.mem_singleton.mp hfar]
      exact Nat.succ_pos _

end Path

/-! ## The search -/

namespace Directory

variable {d : Directory} {name : String} {start place : Path} {bytes : List UInt8}

/-- a file of a name stands at or above a place, and none stands nearer; what is no file does not
count -/
structure NearestAt (d : Directory) (name : String) (start place : Path) (bytes : List UInt8) :
    Prop where
  above : place <+: start
  holds : d.file? (place ++ [name]) = some bytes
  nearest : ∀ q, q <+: start → place.length < q.length → d.file? (q ++ [name]) = none

instance : Decidable (d.NearestAt name start place bytes) :=
  decidable_of_iff (place ∈ start.upward ∧ d.file? (place ++ [name]) = some bytes
      ∧ ∀ q ∈ start.upward, place.length < q.length → d.file? (q ++ [name]) = none) <| by
    simp only [Path.mem_upward_iff]
    exact ⟨fun ⟨habove, hholds, hnearest⟩ => ⟨habove, hholds, hnearest⟩,
      fun hnear => ⟨hnear.above, hnear.holds, hnear.nearest⟩⟩

theorem nearest?_eq_some_iff :
    d.nearest? name start = some bytes ↔ ∃ place, d.NearestAt name start place bytes := by
  unfold nearest?
  rw [List.findSome?_eq_some_iff]
  constructor
  · rintro ⟨nearer, place, farther, hsplit, hholds, hnone⟩
    have hmem : ∀ {q}, q <+: start → q ∈ nearer ++ place :: farther := fun hq =>
      hsplit ▸ Path.mem_upward_iff.mpr hq
    have hpairs := Path.pairwise_upward start
    rw [hsplit] at hpairs
    obtain ⟨-, hfarther, -⟩ := List.pairwise_append.mp hpairs
    refine ⟨place, ?_, hholds, fun q hq hlong => ?_⟩
    · rw [← Path.mem_upward_iff, hsplit]
      exact List.mem_append_right _ List.mem_cons_self
    · rcases List.mem_append.mp (hmem hq) with hnear | hrest
      · exact hnone q hnear
      · -- what comes after the place is farther away
        rcases List.mem_cons.mp hrest with rfl | hfar
        · exact absurd hlong (Nat.lt_irrefl _)
        · have hshort := (List.pairwise_cons.mp hfarther).1 q hfar
          omega
  · rintro ⟨place, habove, hholds, hnearest⟩
    obtain ⟨nearer, farther, hsplit⟩ := List.append_of_mem (Path.mem_upward_iff.mpr habove)
    refine ⟨nearer, place, farther, hsplit, hholds, fun q hq => ?_⟩
    have hpairs := Path.pairwise_upward start
    rw [hsplit] at hpairs
    refine hnearest q ?_ ((List.pairwise_append.mp hpairs).2.2 q hq place List.mem_cons_self)
    rw [← Path.mem_upward_iff, hsplit]
    exact List.mem_append_left _ hq

theorem nearest?_eq_none_iff :
    d.nearest? name start = none ↔ ∀ q, q <+: start → d.file? (q ++ [name]) = none := by
  unfold nearest?
  rw [List.findSome?_eq_none_iff]
  exact forall_congr' fun q => imp_congr_left Path.mem_upward_iff

end Directory

/-! ## Loading -/

namespace Settings

variable {l : Toml.Limits} {h : Hierarchy} {d : Directory} {start place : Path} {bytes : List UInt8}
  {given : List (String × Value)}

/-- loading from a place is loading the file that a search upwards from there finds -/
theorem loadFrom_of_nearest? {file : Option (List UInt8)}
    (hfile : d.nearest? settingsFileName start = file) (hgiven : areArguments given = true) :
    loadFrom l h d (some start) given = load l h file given := by
  unfold loadFrom
  rw [if_pos hgiven, Option.bind_some, hfile]

/-- arguments of no setting are refused, whatever stands in the tree -/
theorem loadFrom_congr {d' : Directory}
    (hload : load l h (d.nearest? settingsFileName start) given
      = load l h (d'.nearest? settingsFileName start) given) :
    loadFrom l h d (some start) given = loadFrom l h d' (some start) given := by
  unfold loadFrom
  rw [Option.bind_some, Option.bind_some, hload]

theorem nearest?_nothing (start : Path) : Directory.nearest? [] settingsFileName start = none :=
  Directory.nearest?_eq_none_iff.mpr fun _ _ => rfl

/-- the nearest configuration file decides, whatever stands farther up or elsewhere; without one,
and with one that breaks the format or has no settings, loading is as in a tree without files, which
gives the defaults; bytes that are no text, a number that is too long, brackets that are nested too
deeply, and anything but a table in place of the settings or of the table around them end the
loading -/
theorem loadFrom_nearest (l : Toml.Limits) (h : Hierarchy) (start : Path)
    (given : List (String × Value)) :
    (∀ (d d' : Directory) (place place' : Path) (bytes : List UInt8),
        d.NearestAt settingsFileName start place bytes →
        d'.NearestAt settingsFileName start place' bytes →
        loadFrom l h d (some start) given = loadFrom l h d' (some start) given)
      ∧ (∀ d : Directory, (∀ q, q <+: start → d.file? (q ++ [settingsFileName]) = none) →
        loadFrom l h d (some start) given = loadFrom l h [] (some start) given)
      ∧ loadFrom l h [] (some start) [] = .ok {}
      ∧ ∀ (d : Directory) (place : Path) (bytes : List UInt8),
        d.NearestAt settingsFileName start place bytes →
        match Contents.ofBytes l bytes with
        | .noToml | .settings [] =>
          loadFrom l h d (some start) given = loadFrom l h [] (some start) given
        | .noText => areArguments given = true →
          loadFrom l h d (some start) given = .error .undecodable
        | .longNumber => areArguments given = true →
          loadFrom l h d (some start) given = .error .longNumber
        | .tooDeep => areArguments given = true →
          loadFrom l h d (some start) given = .error .tooDeep
        | .misplaced => areArguments given = true →
          loadFrom l h d (some start) given = .error (.noAttribute "value" "get")
        | .settings es => areArguments given = true →
          loadFrom l h d (some start) given
            = merged h (.dict (Toml.toEntries es)) given >>= ofValues := by
  have hfound : ∀ {d : Directory} {place : Path} {bytes : List UInt8},
      d.NearestAt settingsFileName start place bytes →
      d.nearest? settingsFileName start = some bytes :=
    fun hnear => Directory.nearest?_eq_some_iff.mpr ⟨_, hnear⟩
  refine ⟨fun d d' place place' bytes hnear hnear' => ?_, fun d hnone => ?_,
    loadFrom_of_nearest? (nearest?_nothing start) rfl, fun d place bytes hnear => ?_⟩
  · exact loadFrom_congr (by rw [hfound hnear, hfound hnear'])
  · exact loadFrom_congr (by rw [Directory.nearest?_eq_none_iff.mpr hnone, nearest?_nothing])
  · have hof : Contents.of l (some bytes) = Contents.ofBytes l bytes := rfl
    have hload := load_eq l h (some bytes) given
    rw [hof] at hload
    -- a file without settings is loaded like no file
    have hempty : load l h (some bytes) given = load l h none given →
        loadFrom l h d (some start) given = loadFrom l h [] (some start) given :=
      fun hsame => loadFrom_congr (by rw [hfound hnear, nearest?_nothing, hsame])
    have hfrom : areArguments given = true →
        loadFrom l h d (some start) given = load l h (some bytes) given :=
      loadFrom_of_nearest? (hfound hnear)
    generalize Contents.ofBytes l bytes = contents at hload ⊢
    cases contents with
    | noText | longNumber | tooDeep | misplaced => exact fun hgiven => (hfrom hgiven).trans hload
    | noToml => exact hempty hload
    | settings es =>
      cases es with
      | nil => exact hempty hload
      | cons e es => exact fun hgiven => (hfrom hgiven).trans hload

/-- a folder of the name is passed by, and the file above it counts rather than the one farther up;
one that is no text ends the loading, whatever stands above it -/
theorem loadFrom_pastFolder :
    let file := "[tool.looking_glass]\ninternal_prefix = \"_\"".toUTF8.toList
    let tree : Directory := [(["a", "b", settingsFileName], .folder),
      (["a", settingsFileName], .file file), ([settingsFileName], .file [0xff])]
    let badTree : Directory :=
      [(["a", settingsFileName], .file [0xff]), ([settingsFileName], .file file)]
    loadFrom .standard .base tree (some ["a", "b", "c"]) []
        = loadFrom .standard .base [([settingsFileName], .file file)] (some ["a", "b", "c"]) []
      ∧ loadFrom .standard .base badTree (some ["a", "b", "c"]) [] = .error .undecodable := by
  intro file tree badTree
  obtain ⟨hsame, -, -, hends⟩ := loadFrom_nearest .standard .base ["a", "b", "c"] []
  refine ⟨hsame tree _ ["a"] [] file (by decide +kernel) (by decide +kernel), ?_⟩
  have hsort : Contents.ofBytes .standard [0xff] = .noText :=
    Contents.eq_of_sameSort (by decide +kernel)
  have hend := hends badTree ["a"] [0xff] (by decide +kernel)
  rw [hsort] at hend
  exact hend rfl

end Settings

end Introspect
