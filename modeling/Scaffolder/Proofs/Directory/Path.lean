import Mathlib.Tactic.SplitIfs
import Scaffolder.Directory.Path
import Scaffolder.Proofs.Text.Pieces

/-!
# The names on a path

A path is a text, and a walk goes by the names on it.

* **Names in a folder** (`steps_join`): the path of a name in a folder goes through the names of the folder,
  and then that one (`folders_join`, `last?_join`).
* **The folders on the way** (`steps_prefix_of_mem_ancestors`): they are led to by the first names of a path,
  from where the path starts (`isAbsolute_of_mem_ancestors`).
-/

namespace Scaffolder.Path

/-! ## Names between slashes -/

/-- The names on both sides of a slash are the names of what it parts. -/
theorem steps_append_slash (front back : String) :
    steps (front ++ "/" ++ back) = steps front ++ steps back := by
  have hchars : (front ++ "/" ++ back).toList = front.toList ++ '/' :: back.toList := by
    simp [String.toList_append]
  unfold steps List.splitOn
  rw [hchars, List.splitOnP_append_cons _ _ (by rfl), List.map_append, List.filter_append]

/-- A text without slashes is one name, unless it is empty. -/
theorem steps_of_noSlash {name : String} (noslash : '/' ∉ name.toList) :
    steps name = [name].filter fun name => name ≠ "" := by
  unfold steps
  rw [List.splitOn_eq_singleton noslash]
  simp

/-- Whether a path is empty or ends with a slash, so that a name can stand behind it. -/
def Opens (before : String) : Prop := before = "" ∨ ∃ front, before = front ++ "/"

/-- What stands behind an opening adds its names. -/
theorem steps_append_of_opens {before : String} (h : Opens before) (name : String) :
    steps (before ++ name) = steps before ++ steps name := by
  have hempty : steps "" = [] := by decide
  rcases h with rfl | ⟨front, rfl⟩
  · rw [String.empty_append, hempty, List.nil_append]
  · have hfront : steps (front ++ "/") = steps front := by
      have h := steps_append_slash front ""
      rw [hempty, List.append_nil, String.append_empty] at h
      exact h
    rw [steps_append_slash, hfront]

/-- A name can stand behind a slash. -/
theorem opens_of_endsInSlash {path : String} (h : endsInSlash path = true) : Opens path := by
  obtain ⟨cs, hcs⟩ := List.getLast?_eq_some_iff.1 (of_decide_eq_true h)
  refine .inr ⟨String.ofList cs, String.toList_inj.1 ?_⟩
  rw [String.toList_append, String.toList_ofList]
  exact hcs

/-- The steps to a name in a folder are those to the folder, and the name. -/
theorem steps_join {folder name : String} (noslash : '/' ∉ name.toList) (hne : name ≠ "") :
    steps (join folder name) = steps folder ++ [name] := by
  have hname : steps name = [name] := by
    rw [steps_of_noSlash noslash]
    simp [hne]
  unfold join
  split_ifs with hopens
  · have h : Opens folder := by
      rcases Bool.or_eq_true_iff.1 hopens with hempty | hslash
      · exact .inl (String.isEmpty_iff.1 hempty)
      · exact opens_of_endsInSlash hslash
    rw [steps_append_of_opens h, hname]
  · rw [steps_append_slash, hname]

/-- The path of a name does not end with a slash. -/
theorem endsInSlash_join {folder name : String} (noslash : '/' ∉ name.toList) (hne : name ≠ "") :
    endsInSlash (join folder name) = false := by
  obtain ⟨cs, c, hname⟩ : ∃ cs c, name.toList = cs ++ [c] := by
    rcases List.eq_nil_or_concat name.toList with hnil | ⟨cs, c, hconcat⟩
    · exact absurd (String.toList_inj.1 hnil) hne
    · exact ⟨cs, c, by rw [hconcat, List.concat_eq_append]⟩
  have hc : c ≠ '/' := by
    rintro rfl
    exact noslash (by rw [hname]; exact List.mem_append_right _ List.mem_cons_self)
  have hlast : ∀ before : String, (before ++ name).toList.getLast? = some c := by
    intro before
    rw [String.toList_append, hname, ← List.append_assoc, List.getLast?_concat]
  unfold endsInSlash join
  split_ifs
  · rw [hlast]
    simpa using hc
  · rw [hlast]
    simpa using hc

/-- Whether a text is a name that something in a folder can have. -/
def IsName (name : String) : Prop := '/' ∉ name.toList ∧ name ≠ "" ∧ isRelative name = false

section

variable {folder name : String}

/-- The path of a name in a folder ends with the name. -/
theorem last?_join (isName : IsName name) : last? (join folder name) = some name := by
  obtain ⟨noslash, hne, hrelative⟩ := isName
  unfold last?
  rw [steps_join noslash hne, List.getLast?_concat]
  simp [hrelative]

/-- The path of a name in a folder leads through the names of the folder. -/
theorem folders_join (isName : IsName name) : folders (join folder name) = steps folder := by
  unfold folders
  rw [last?_join isName, steps_join isName.1 isName.2.1]
  exact List.dropLast_concat

/-- What a path starts with is what its first character says. -/
theorem isAbsolute_append {front : String} (hne : front ≠ "") (back : String) :
    isAbsolute (front ++ back) = isAbsolute front := by
  obtain ⟨c, cs, hcs⟩ : ∃ c cs, front.toList = c :: cs :=
    List.exists_cons_of_ne_nil fun hnil => hne (String.toList_inj.1 hnil)
  unfold isAbsolute
  rw [String.toList_append, hcs]
  rfl

/-- The path of a name in a folder starts where the path of the folder does. -/
theorem isAbsolute_join (noslash : '/' ∉ name.toList) :
    isAbsolute (join folder name) = isAbsolute folder := by
  unfold join
  by_cases hempty : folder = ""
  · subst hempty
    have hhead : name.toList.head? ≠ some '/' := fun h => noslash (List.mem_of_head? h)
    simp [isAbsolute, hhead]
  · split_ifs
    · exact isAbsolute_append hempty name
    · rw [String.append_assoc]
      exact isAbsolute_append hempty _

end

/-! ## The folders on the way -/

/-- The steps of a path are those to folders and the last. -/
theorem steps_eq (path : String) : steps path = folders path ++ (last? path).toList := by
  unfold folders
  cases hlast : last? path with
  | none => simp
  | some name =>
    obtain ⟨hgetLast, _⟩ := Option.filter_eq_some_iff.1 hlast
    obtain ⟨front, hsteps⟩ := List.getLast?_eq_some_iff.1 hgetLast
    simp [hsteps]

/-- The name that a path ends with is a name. -/
theorem not_isRelative_of_last? {path name : String} (h : last? path = some name) :
    isRelative name = false := by
  obtain ⟨_, hrelative⟩ := Option.filter_eq_some_iff.1 h
  simpa using hrelative

/-- What leads to the names of a list leads through some of them, in turn. -/
theorem steps_prefix_of_mem_upToEach {before path : String} {parts : List String}
    (opens : Opens before) (noslash : ∀ name ∈ parts, '/' ∉ name.toList)
    (h : path ∈ upToEach before parts) :
    steps path <+: steps before ++ parts.filter fun name => name ≠ "" := by
  induction parts generalizing before with
  | nil => cases h
  | cons name rest ih =>
    have hhere : steps (before ++ name) =
        steps before ++ [name].filter fun name => name ≠ "" := by
      rw [steps_append_of_opens opens, steps_of_noSlash (noslash name List.mem_cons_self)]
    have hopens : Opens (before ++ name ++ "/") := .inr ⟨_, rfl⟩
    have hlonger : path ∈ upToEach (before ++ name ++ "/") rest →
        steps path <+: steps before ++ (name :: rest).filter fun name => name ≠ "" := by
      intro hmem
      have h := ih hopens (fun n hn => noslash n (List.mem_cons_of_mem _ hn)) hmem
      have hslash : steps (before ++ name ++ "/") = steps (before ++ name) := by
        have h := steps_append_slash (before ++ name) ""
        rw [String.append_empty] at h
        rw [h]
        exact List.append_nil _
      rw [hslash, hhere, List.append_assoc, ← List.filter_append, List.singleton_append] at h
      exact h
    unfold upToEach at h
    dsimp only at h
    split_ifs at h with hskip
    · exact hlonger h
    · rcases List.mem_cons.1 h with rfl | h
      · rw [hhere]
        have hsplit : (name :: rest).filter (fun name => name ≠ "") =
            [name].filter (fun name => name ≠ "") ++ rest.filter fun name => name ≠ "" := by
          rw [← List.filter_append, List.singleton_append]
        rw [hsplit, ← List.append_assoc]
        exact List.prefix_append _ _
      · exact hlonger h

/-- **The folders on the way to a path** are led to by its first steps. -/
theorem steps_prefix_of_mem_ancestors {path outer : String} (h : outer ∈ ancestors path) :
    steps outer <+: steps path := by
  unfold ancestors at h
  split at h
  · cases h
  · next last rest heq =>
    rcases List.mem_cons.1 h with rfl | h
    · exact List.prefix_rfl
    · have hmem : outer ∈ upToEach "" ((path.toList.splitOn '/').map String.ofList) := by
        rw [← List.mem_reverse, heq]
        exact List.mem_cons_of_mem _ h
      refine steps_prefix_of_mem_upToEach (.inl rfl) ?_ hmem
      intro name hname
      obtain ⟨part, hpart, rfl⟩ := List.mem_map.1 hname
      rw [String.toList_ofList]
      exact Text.notMem_of_mem_splitOn hpart

/-- What leads to the names of a list starts as the whole list does. -/
theorem prefix_of_mem_upToEach {before path : String} {parts : List String}
    (h : path ∈ upToEach before parts) :
    path ≠ "" ∧ path.toList <+: before.toList ++ ['/'].intercalate (parts.map String.toList) := by
  induction parts generalizing before with
  | nil => cases h
  | cons name rest ih =>
    have hfirst : name.toList <+: ['/'].intercalate ((name :: rest).map String.toList) := by
      cases rest with
      | nil => simp
      | cons next rest => simp [List.intercalate_cons_cons]
    have hlonger : path ∈ upToEach (before ++ name ++ "/") rest → path ≠ "" ∧
        path.toList <+: before.toList ++ ['/'].intercalate ((name :: rest).map String.toList) := by
      intro hmem
      obtain ⟨hne, hprefix⟩ := ih hmem
      refine ⟨hne, ?_⟩
      cases rest with
      | nil => cases hmem
      | cons next rest =>
        simpa [String.toList_append, List.intercalate_cons_cons, List.append_assoc] using hprefix
    unfold upToEach at h
    dsimp only at h
    split_ifs at h with hskip
    · exact hlonger h
    · rcases List.mem_cons.1 h with rfl | h
      · refine ⟨fun hempty => hskip (.inl (String.append_eq_empty_iff.1 hempty).2), ?_⟩
        rw [String.toList_append]
        exact (List.prefix_append_right_inj _).2 hfirst
      · exact hlonger h

/-- **The folders on the way to a path** are looked for from where the path starts. -/
theorem isAbsolute_of_mem_ancestors {path outer : String} (h : outer ∈ ancestors path) :
    isAbsolute outer = isAbsolute path := by
  unfold ancestors at h
  split at h
  · cases h
  · next last rest heq =>
    rcases List.mem_cons.1 h with rfl | h
    · rfl
    · have hmem : outer ∈ upToEach "" ((path.toList.splitOn '/').map String.ofList) := by
        rw [← List.mem_reverse, heq]
        exact List.mem_cons_of_mem _ h
      obtain ⟨hne, hprefix⟩ := prefix_of_mem_upToEach hmem
      have hparts : ((path.toList.splitOn '/').map String.ofList).map String.toList =
          path.toList.splitOn '/' := by
        rw [List.map_map]
        exact (List.map_congr_left fun cs _ => String.toList_ofList).trans (List.map_id _)
      rw [hparts, List.intercalate_splitOn] at hprefix
      obtain ⟨c, cs, hcs⟩ : ∃ c cs, outer.toList = c :: cs :=
        List.exists_cons_of_ne_nil fun hnil => hne (String.toList_inj.1 hnil)
      obtain ⟨more, hmore⟩ := hprefix
      rw [String.toList_empty, List.nil_append] at hmore
      unfold isAbsolute
      rw [← hmore, hcs]
      rfl

end Scaffolder.Path
