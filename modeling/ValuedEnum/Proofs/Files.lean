import ValuedEnum.FileSystem
import ValuedEnum.Proofs.Scope

/-!
# What a write changes

A file that is written changes one place, and no directory. Paths lead to the same places before and
after, so that every file at another place keeps its content. A path that is joined from a directory
and a plain name leads into that directory.
-/

namespace ValuedEnum

namespace FileSystem

/-! ### Places -/

/-- The root is a directory. -/
@[simp] theorem node?_nil (files : FileSystem) : files.node? [] = some .directory := rfl

/-- Another entry is the only thing that changes. -/
theorem node?_insert (files : FileSystem) {place : Place} (hplace : place ≠ []) (node : FileNode)
    (other : Place) :
    (files.insert place node).node? other =
      if other = place then some node else files.node? other := by
  cases other with
  | nil => simp [hplace.symm]
  | cons first rest =>
    by_cases hsame : first :: rest = place
    · subst hsame
      simp [node?, insert]
    · have hlookup : (files.entries.filter (·.1 != place)).lookup (first :: rest) =
          files.entries.lookup (first :: rest) := by
        induction files.entries with
        | nil => rfl
        | cons entry entries ih =>
          obtain ⟨key, value⟩ := entry
          by_cases hkey : key = place
          · have hother : ((first :: rest) == place) = false := by simpa using hsame
            simpa [hkey, List.lookup_cons, hother] using ih
          · simp [hkey, List.lookup_cons, ih]
      have hother : ((first :: rest) == place) = false := by simpa using hsame
      simp [node?, insert, List.lookup_cons, hother, hlookup, hsame]

/-- Only a directory is left by a name. -/
theorem toOption_follow_cons {files : FileSystem} {place : Place}
    (h : files.node? place ≠ some .directory) (name : String) (rest : List String) :
    (files.follow place (name :: rest)).toOption = none := by
  unfold follow
  split
  · rfl
  · rfl
  · rename_i hdirectory
    exact absurd hdirectory h

/-! ### Frames -/

/-- File systems with the same directories, which differ at some places only. -/
structure Frame (touched : Place → Prop) (before after : FileSystem) : Prop where
  kept : ∀ place, ¬touched place → after.node? place = before.node? place
  directory : ∀ place, after.node? place = some .directory ↔ before.node? place = some .directory

namespace Frame

variable {touched : Place → Prop} {before between after : FileSystem}

/-- File systems do not differ from themselves. -/
theorem refl (touched : Place → Prop) (files : FileSystem) : Frame touched files files :=
  ⟨fun _ _ => rfl, fun _ => Iff.rfl⟩

/-- What is kept twice is kept. -/
theorem trans (hfirst : Frame touched before between) (hsecond : Frame touched between after) :
    Frame touched before after where
  kept place hplace := (hsecond.kept place hplace).trans (hfirst.kept place hplace)
  directory place := (hsecond.directory place).trans (hfirst.directory place)

/-- More places may differ. -/
theorem mono {wider : Place → Prop} (h : Frame touched before after)
    (hwider : ∀ place, touched place → wider place) : Frame wider before after where
  kept place hplace := h.kept place (mt (hwider place) hplace)
  directory := h.directory

/-- Names lead to the same place, or to none, while directories stay. -/
theorem follow (h : Frame touched before after) (place : Place) (names : List String) :
    (after.follow place names).toOption = (before.follow place names).toOption := by
  induction names generalizing place with
  | nil => rfl
  | cons name rest ih =>
    by_cases hdirectory : before.node? place = some .directory
    · have hafter := (h.directory place).mpr hdirectory
      simp only [FileSystem.follow, hdirectory, hafter]
      split
      · exact ih place
      · split
        · exact ih place.dropLast
        · split
          · rfl
          · exact ih (place ++ [name])
    · have hafter := mt (h.directory place).mp hdirectory
      rw [toOption_follow_cons hdirectory, toOption_follow_cons hafter]

/-- Paths lead to the same place, or to none. -/
theorem locate (h : Frame touched before after) (path : String) :
    (after.locate path).toOption = (before.locate path).toOption := by
  unfold FileSystem.locate
  split
  · rfl
  · split
    · rfl
    · split
      · rfl
      · exact h.follow [] (parts path)

/-- A path leads to the same place. -/
theorem locate_eq_ok (h : Frame touched before after) {path : String} {place : Place}
    (hpath : before.locate path = .ok place) : after.locate path = .ok place := by
  have hlocate := h.locate path
  rw [hpath] at hlocate
  exact toOption_eq_some_iff.mp hlocate

/-- A path that leads to no place of the frame has the content that it had. -/
theorem read (h : Frame touched before after) {path : String}
    (hpath : ∀ place, before.locate path = .ok place → ¬touched place) :
    (after.read path).toOption = (before.read path).toOption := by
  have hlocate := h.locate path
  rcases eq_or_error_of_toOption_eq hlocate with ⟨place, hafter, hbefore⟩ | ⟨_, _, hafter, hbefore⟩
  · have hnode := h.kept place (hpath place hbefore)
    rw [FileSystem.read, FileSystem.read, hafter, hbefore]
    simp only [hnode]
  · rw [FileSystem.read, FileSystem.read, hafter, hbefore]
    rfl

/-- A file at a place that is not touched has the same text, or can be read neither before nor
after. -/
theorem readText (h : Frame touched before after) {path : String}
    (hpath : ∀ place, before.locate path = .ok place → ¬touched place) :
    (after.readText path).toOption = (before.readText path).toOption := by
  unfold FileSystem.readText
  rcases eq_or_error_of_toOption_eq (h.read hpath) with
    ⟨content, hafter, hbefore⟩ | ⟨_, _, hafter, hbefore⟩
  · rw [hafter, hbefore]
  · rw [hafter, hbefore]
    rfl

end Frame

/-- What a write changes: the content at one place that is no directory. -/
theorem frame_of_write {files next : FileSystem} {path : String} {content : ByteArray}
    (h : files.write path content = .ok next) :
    ∃ place, files.locate path = .ok place ∧ Frame (· = place) files next ∧
      next.node? place = some (.file content) := by
  unfold write at h
  split at h
  · simp at h
  · rename_i place hplace
    split at h
    · simp at h
    · rename_i hnode
      obtain rfl : files.insert place (.file content) = next := by simpa using h
      have hroot : place ≠ [] := by
        rintro rfl
        exact hnode rfl
      refine ⟨place, hplace, ⟨fun other hother => ?_, fun other => ?_⟩, ?_⟩
      · rw [node?_insert files hroot, if_neg hother]
      · rw [node?_insert files hroot]
        split
        · rename_i hother
          subst hother
          simpa using hnode
        · exact Iff.rfl
      · rw [node?_insert files hroot, if_pos rfl]

/-- A file may be written wherever no directory stands. -/
theorem exists_write {files : FileSystem} {path : String} {place : Place}
    (hplace : files.locate path = .ok place) (hnode : files.node? place ≠ some .directory)
    (content : ByteArray) : ∃ next, files.write path content = .ok next := by
  rw [write, hplace]
  dsimp only
  split
  · rename_i hdirectory
    exact absurd hdirectory hnode
  · exact ⟨_, rfl⟩

/-- The text of a file is read where it stands. -/
theorem readText_of_node? {files : FileSystem} {path text : String} {place : Place}
    (hplace : files.locate path = .ok place)
    (hnode : files.node? place = some (.file text.toUTF8)) : files.readText path = .ok text := by
  have hread : files.read path = .ok text.toUTF8 := by
    rw [read, hplace]
    simp only [hnode]
  have htext : String.fromUTF8? text.toUTF8 = some text := dif_pos text.isValidUTF8
  rw [readText, hread]
  simp only [htext]

/-- A text that was written is read back. -/
theorem readText_of_writeText {files next : FileSystem} {path text : String}
    (h : files.writeText path text = .ok next) : next.readText path = .ok text := by
  obtain ⟨place, hplace, hframe, hnode⟩ := frame_of_write h
  exact readText_of_node? (hframe.locate_eq_ok hplace) hnode

/-! ### Paths -/

/-- A name that stands for an entry of a directory. -/
structure IsName (name : String) : Prop where
  slash : '/' ∉ name.toList
  ne_empty : name ≠ ""
  ne_dot : name ≠ "."
  ne_dots : name ≠ ".."

/-- A path without a separator is one name. -/
theorem parts_of_notMem {path : String} (h : '/' ∉ path.toList) : parts path = [path] := by
  have hsplit : path.toList.splitOnP (· == '/') = [path.toList] := by
    apply List.splitOnP_eq_singleton
    intro c hc
    have hslash : c ≠ '/' := fun hslash => h (hslash ▸ hc)
    simpa using hslash
  rw [parts, hsplit, List.map_singleton, String.ofList_toList]

/-- A separator stands between the names in front of it and those behind it. -/
theorem parts_append (front back : String) :
    parts (front ++ "/" ++ back) = parts front ++ parts back := by
  have hchars : (front ++ "/" ++ back).toList = front.toList ++ '/' :: back.toList := by simp
  rw [parts, hchars, List.splitOnP_append_cons _ _ (by simp), List.map_append, parts, parts]

/-- A longer path is followed from the place that the shorter one leads to. -/
theorem follow_append (files : FileSystem) (place : Place) (front back : List String) :
    files.follow place (front ++ back) =
      match files.follow place front with
      | .error problem => .error problem
      | .ok between => files.follow between back := by
  induction front generalizing place with
  | nil => rfl
  | cons name rest ih =>
    rw [List.cons_append, follow, follow]
    cases files.node? place with
    | none => rfl
    | some node =>
      cases node with
      | file content => rfl
      | directory =>
        simp only [ih]
        split
        · rfl
        · split
          · rfl
          · split <;> rfl

/-- A plain name leads from a directory to an entry of it. -/
theorem follow_name {files : FileSystem} {name : String} (hname : IsName name) {place last : Place}
    (h : files.follow place [name] = .ok last) : last = place ++ [name] := by
  have hstays : (name = "" || name = ".") = false := by simp [hname.ne_empty, hname.ne_dot]
  unfold follow at h
  split at h
  · simp at h
  · simp at h
  · rw [hstays, if_neg Bool.false_ne_true, if_neg hname.ne_dots] at h
    split at h
    · simp at h
    · simpa [follow] using h.symm

/-- An empty name stays where it is, whatever follows it. -/
theorem follow_empty (files : FileSystem) (place : Place) (name : String) (rest : List String) :
    files.follow place ("" :: name :: rest) = files.follow place (name :: rest) := by
  rw [follow]
  cases hnode : files.node? place with
  | none => simp [follow, hnode]
  | some node =>
    cases node with
    | file content => simp [follow, hnode]
    | directory => rfl

/-- Joining adds a name to those of the directory. -/
theorem follow_join (files : FileSystem) (directory : String) {name : String}
    (hname : '/' ∉ name.toList) :
    files.follow [] (parts (join directory name)) =
      files.follow [] (parts directory ++ [name]) := by
  have hrelative : decide (name.toList.head? = some '/') = false :=
    decide_eq_false fun hslash => hname (List.mem_of_mem_head? hslash)
  have hempty : parts "" = [""] := parts_of_notMem (by simp)
  have hparts : parts name = [name] := parts_of_notMem hname
  unfold join
  rw [hrelative, Bool.or_false]
  split
  · rename_i hdirectory
    obtain rfl : directory = "" := by simpa using hdirectory
    rw [hparts, hempty, List.singleton_append, follow_empty]
  · split
    · rename_i hslash
      obtain ⟨front, hfront⟩ := List.getLast?_eq_some_iff.mp hslash
      obtain rfl : directory = String.ofList front ++ "/" := by
        rw [← String.toList_inj, hfront]
        simp
      have hdirectory :
          parts (String.ofList front ++ "/") = parts (String.ofList front) ++ [""] := by
        have happend := parts_append (String.ofList front) ""
        rwa [String.append_empty, hempty] at happend
      rw [parts_append, hparts, hdirectory, List.append_assoc, follow_append, follow_append]
      simp only [List.singleton_append, follow_empty]
    · rw [parts_append, hparts]

/-- A directory that is joined with a plain name leads to an entry of it. -/
theorem locate_join {files : FileSystem} {directory name : String} (hname : IsName name)
    {place : Place} (h : files.locate (join directory name) = .ok place) :
    ∃ inside, files.follow [] (parts directory) = .ok inside ∧ place = inside ++ [name] := by
  have hfollow : files.follow [] (parts directory ++ [name]) = .ok place := by
    rw [← follow_join files directory hname.slash]
    unfold locate at h
    split at h
    · simp at h
    · split at h
      · simp at h
      · split at h
        · simp at h
        · exact h
  rw [follow_append] at hfollow
  split at hfollow
  · simp at hfollow
  · rename_i inside hinside
    exact ⟨inside, hinside, follow_name hname hfollow⟩

end FileSystem

end ValuedEnum
