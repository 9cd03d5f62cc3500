import PolicyRouting.Console.Script

/-!
# Files that are saved and read

A text that was saved is what its path reads afterwards: the walk to the file
passes through directories only, so the file that is written is not on it.
A text that could not be saved leaves its path with the text it had, or with
none; the directories that were made on the way do not matter.
-/

namespace PolicyRouting.Console.FileTree

variable {tree : FileTree} {place start finish : Place} {node : Node} {name path content : String}

theorem walk_cons_eq_ok_iff {rest : List String} :
    tree.walk start (name :: rest) = .ok finish ↔
      tree.isDirectory start = true ∧ (tree.node? (under start name)).isSome = true ∧
        tree.walk (under start name) rest = .ok finish := by
  rw [walk]
  cases tree.isDirectory start <;> cases tree.node? (under start name) <;> simp

theorem walk_concat_eq_ok_iff {above : List String} :
    tree.walk start (above ++ [name]) = .ok finish ↔
      ∃ parent, tree.walk start above = .ok parent ∧ tree.isDirectory parent = true ∧
        (tree.node? finish).isSome = true ∧ finish = under parent name := by
  induction above generalizing start with
  | nil =>
      rw [List.nil_append, walk_cons_eq_ok_iff]
      simp only [walk, Except.ok.injEq, exists_eq_left', eq_comm (a := finish)]
      exact and_congr_right fun _ => and_congr_left fun same => same ▸ Iff.rfl
  | cons first above ih =>
      simp only [List.cons_append, walk_cons_eq_ok_iff, ih, and_assoc, exists_and_left]

theorem read_eq_ok_iff :
    tree.read path = .ok content ↔
      ∃ place, tree.locate path = .ok place ∧ tree.node? place = some (.text content) := by
  rw [read]
  cases tree.locate path with
  | error cause => simp [bind, Except.bind]
  | ok place =>
      simp only [bind, Except.bind, Except.ok.injEq, exists_eq_left']
      split <;> simp_all

theorem locate_eq_ok_iff :
    tree.locate path = .ok place ↔
      path ≠ "" ∧ tree.walk (tree.start path) (names path) = .ok place := by
  rw [locate]
  split <;> simp_all

theorem names_ne_nil (path : String) : names path ≠ [] := by
  simp [names, Text.pieces_ne_nil]

/-! ## Putting a node where no directory is -/

theorem lookup_filter_ne {other : Place} (distinct : other ≠ place) (nodes : List (Place × Node)) :
    (nodes.filter (·.1 ≠ place)).lookup other = nodes.lookup other := by
  induction nodes with
  | nil => rfl
  | cons e nodes ih =>
      obtain ⟨at', node⟩ := e
      by_cases same : at' = place
      · subst same
        have apart : (other == at') = false := beq_eq_false_iff_ne.2 distinct
        rw [List.filter_cons_of_neg (by simp), ih, List.lookup_cons, apart]
      · rw [List.filter_cons_of_pos (by simpa using same), List.lookup_cons, List.lookup_cons, ih]

section Put

variable (notDirectory : tree.isDirectory place = false)

include notDirectory

theorem ne_root : place ≠ [] := by
  rintro rfl
  simp [isDirectory, node?] at notDirectory

theorem node?_put (other : Place) :
    (tree.put place node).node? other =
      if other = place then some node else tree.node? other := by
  have below := ne_root notDirectory
  by_cases same : other = place
  · subst same
    simp [node?, put, below]
  · have apart : (other == place) = false := beq_eq_false_iff_ne.2 same
    by_cases root : other = []
    · simp [node?, root, below.symm]
    · rw [if_neg same, node?, node?, if_neg root, if_neg root, put, List.lookup_cons, apart,
        lookup_filter_ne same]

theorem isDirectory_put {other : Place} (h : tree.isDirectory other = true) :
    (tree.put place node).isDirectory other = true := by
  have distinct : other ≠ place := by
    rintro rfl
    simp [h] at notDirectory
  rwa [isDirectory, node?_put notDirectory, if_neg distinct]

theorem isSome_put {other : Place} (h : (tree.node? other).isSome = true) :
    ((tree.put place node).node? other).isSome = true := by
  rw [node?_put notDirectory]
  split
  · rfl
  · exact h

theorem walk_put {names : List String} (walk : tree.walk start names = .ok finish) :
    (tree.put place node).walk start names = .ok finish := by
  induction names generalizing start with
  | nil => exact walk
  | cons name names ih =>
      obtain ⟨directory, there, rest⟩ := walk_cons_eq_ok_iff.1 walk
      exact walk_cons_eq_ok_iff.2
        ⟨isDirectory_put notDirectory directory, isSome_put notDirectory there, ih rest⟩

end Put

theorem named_of_target (h : tree.target path = .ok place) :
    path ≠ "" ∧ ∃ above last, names path = above ++ [last] ∧ last ≠ "" := by
  rw [target] at h
  split at h
  · contradiction
  · rename_i named
    have cut := List.dropLast_concat_getLast (names_ne_nil path)
    refine ⟨named, _, _, cut.symm, fun blank => ?_⟩
    rw [← cut, List.reverse_concat, blank] at h
    simp only [List.head?_cons, true_or, if_true, bind, Except.bind] at h
    split at h
    · contradiction
    · split at h
      · contradiction
      · split at h <;> contradiction

theorem target_of_named {above : List String} {last : String} (named : path ≠ "")
    (cut : names path = above ++ [last]) (filled : last ≠ "") :
    tree.target path = (tree.walk (tree.start path) above).bind fun parent =>
      if !tree.isDirectory parent then .error .notADirectory
      else if tree.isDirectory (under parent last) then .error .isDirectory
      else .ok (under parent last) := by
  have whole : (last :: above.reverse).dropWhile (· = "") = last :: above.reverse :=
    List.dropWhile_cons_of_neg (by simpa using filled)
  rw [target, if_neg named, cut, List.reverse_concat]
  simp only [whole, List.reverse_reverse, List.head?_cons, Option.some.injEq, filled, false_or]
  rfl

theorem read_put_target (h : tree.target path = .ok place) :
    (tree.put place (.text content)).read path = .ok content := by
  obtain ⟨named, above, last, cut, filled⟩ := named_of_target h
  rw [target_of_named named cut filled] at h
  cases walk : tree.walk (tree.start path) above with
  | error cause => simp [walk, Except.bind] at h
  | ok parent =>
      simp only [walk, Except.bind] at h
      split at h
      · contradiction
      · rename_i directory
        split at h
        · contradiction
        · rename_i notDirectory
          obtain rfl := Except.ok.inj h
          have directory : tree.isDirectory parent = true := by simpa using directory
          have notDirectory := Bool.eq_false_iff.2 notDirectory
          have there : (tree.put (under parent last) (.text content)).node? (under parent last) =
              some (.text content) := by
            rw [node?_put notDirectory, if_pos rfl]
          refine read_eq_ok_iff.2 ⟨_, locate_eq_ok_iff.2 ⟨named, ?_⟩, there⟩
          rw [cut]
          exact walk_concat_eq_ok_iff.2 ⟨parent, walk_put notDirectory walk,
            isDirectory_put notDirectory directory, by rw [there]; rfl, rfl⟩

theorem named_of_read (h : tree.read path = .ok content) :
    path ≠ "" ∧ ∃ above last parent, names path = above ++ [last] ∧ last ≠ "" ∧ last ≠ "." ∧
      tree.walk (tree.start path) above = .ok parent ∧ tree.isDirectory parent = true ∧
      tree.isDirectory (under parent last) = false := by
  obtain ⟨place, located, text⟩ := read_eq_ok_iff.1 h
  obtain ⟨named, walk⟩ := locate_eq_ok_iff.1 located
  obtain ⟨above, last, cut⟩ : ∃ above last, names path = above ++ [last] :=
    ⟨_, _, (List.dropLast_concat_getLast (names_ne_nil path)).symm⟩
  rw [cut] at walk
  obtain ⟨parent, above_parent, directory, -, rfl⟩ := walk_concat_eq_ok_iff.1 walk
  have notDirectory : tree.isDirectory (under parent last) = false := by
    simp [isDirectory, text]
  refine ⟨named, above, last, parent, cut, ?_, ?_, above_parent, directory, notDirectory⟩
  · rintro rfl
    simp [under, directory] at notDirectory
  · rintro rfl
    simp [under, directory] at notDirectory

theorem exists_target_of_read (h : tree.read path = .ok content) :
    ∃ place, tree.target path = .ok place := by
  obtain ⟨named, above, last, parent, cut, filled, -, walk, directory, notDirectory⟩ :=
    named_of_read h
  refine ⟨under parent last, ?_⟩
  rw [target_of_named named cut filled, walk]
  simp [Except.bind, directory, notDirectory]

/-! ## Saving -/

theorem read_put_of_missing (missing : tree.node? place = none) (h : tree.read path = .ok content) :
    (tree.put place node).read path = .ok content := by
  have notDirectory : tree.isDirectory place = false := by simp [isDirectory, missing]
  obtain ⟨finish, located, text⟩ := read_eq_ok_iff.1 h
  obtain ⟨named, walk⟩ := locate_eq_ok_iff.1 located
  have distinct : finish ≠ place := by
    rintro rfl
    simp [missing] at text
  refine read_eq_ok_iff.2 ⟨finish, locate_eq_ok_iff.2 ⟨named, walk_put notDirectory walk⟩, ?_⟩
  rw [node?_put notDirectory, if_neg distinct]
  exact text

/-- Nothing was done but to make directories where nothing was. -/
structure Kept (tree left : FileTree) : Prop where
  texts : ∀ place content,
    left.node? place = some (.text content) ↔ tree.node? place = some (.text content)
  reads : ∀ path content, tree.read path = .ok content → left.read path = .ok content
  medium : left.medium = tree.medium

theorem Kept.refl (tree : FileTree) : Kept tree tree := ⟨fun _ _ => .rfl, fun _ _ h => h, rfl⟩

theorem Kept.trans {first second third : FileTree} (before : Kept first second)
    (behind : Kept second third) : Kept first third where
  texts place content := (behind.texts place content).trans (before.texts place content)
  reads path content h := behind.reads path content (before.reads path content h)
  medium := behind.medium.trans before.medium

theorem kept_put (missing : tree.node? place = none) : Kept tree (tree.put place .directory) where
  texts other content := by
    have notDirectory : tree.isDirectory place = false := by simp [isDirectory, missing]
    rw [node?_put notDirectory]
    split
    · simp [*]
    · rfl
  reads path content := read_put_of_missing missing
  medium := rfl

theorem kept_makeAlong {names : List String} {made : FileTree}
    (h : tree.makeAlong place names = .ok made) : Kept tree made := by
  induction names generalizing tree place with
  | nil =>
      rw [makeAlong] at h
      split at h
      · exact Except.ok.inj h ▸ .refl tree
      · contradiction
  | cons name names ih =>
      rw [makeAlong] at h
      split at h
      · contradiction
      · refine Kept.trans ?_ (ih h)
        split
        · exact kept_put (Option.isNone_iff_eq_none.1 ‹_›)
        · exact .refl tree

/-- A write completes or is refused; none breaks off. -/
def NeverBreaksOff (tree : FileTree) : Prop :=
  ∀ content length cause, tree.medium content ≠ .brokenOff length cause

def Completes (tree : FileTree) : Prop := ∀ content, tree.medium content = .complete

theorem save_of_complete {made : FileTree} (above : tree.makeParents path = .ok made)
    (found : made.target path = .ok place) (complete : made.medium content = .complete) :
    tree.save path content = (.ok (), made.put place (.text content)) := by
  rw [save, above]
  simp only [found, write, complete]
  rfl

theorem medium_save (tree : FileTree) (path content : String) :
    (tree.save path content).2.medium = tree.medium := by
  unfold save
  split
  · rfl
  · rename_i made h
    rw [← (kept_makeAlong h).medium]
    split
    · rfl
    · rw [write]
      split <;> rfl

theorem read_save (h : (tree.save path content).1 = .ok ()) :
    (tree.save path content).2.read path = .ok content := by
  unfold save at h ⊢
  cases made : tree.makeParents path with
  | error cause => simp [made] at h
  | ok made' =>
      simp only [made] at h ⊢
      cases found : made'.target path with
      | error cause => simp [found] at h
      | ok place =>
          simp only [found, write] at h ⊢
          split at h
          · exact read_put_target found
          all_goals contradiction

theorem kept_save_of_error (whole : tree.NeverBreaksOff) {fault : SaveFault}
    (h : (tree.save path content).1 = .error fault) : Kept tree (tree.save path content).2 := by
  unfold save at h ⊢
  cases made : tree.makeParents path with
  | error cause => exact .refl tree
  | ok made' =>
      have kept := kept_makeAlong made
      simp only [made] at h ⊢
      cases found : made'.target path with
      | error cause => exact kept
      | ok place =>
          simp only [found, write] at h ⊢
          cases medium : made'.medium content with
          | complete =>
              rw [medium] at h
              contradiction
          | refused cause => exact kept
          | brokenOff length cause => exact absurd (kept.medium ▸ medium) (whole _ _ _)

def lacks (tree : FileTree) (path : String) : Prop :=
  tree.read path = .error .missing ∨ tree.read path = .error .notADirectory

def accepts (tree : FileTree) (path : String) : Prop :=
  ∀ content, (tree.save path content).1 = .ok ()

theorem makeAlong_of_walk {names : List String} (walk : tree.walk place names = .ok finish)
    (directory : tree.isDirectory finish = true) : tree.makeAlong place names = .ok tree := by
  induction names generalizing place with
  | nil =>
      obtain rfl : place = finish := by simpa [FileTree.walk] using walk
      rw [makeAlong, if_pos directory]
  | cons name names ih =>
      obtain ⟨start, there, rest⟩ := walk_cons_eq_ok_iff.1 walk
      have there : (tree.node? (under place name)).isNone = false := by simpa using there
      simp only [makeAlong, start, there, Bool.not_true, Bool.false_eq_true, if_false]
      exact ih rest

theorem parentNames_of_named {above : List String} {last : String}
    (cut : names path = above ++ [last]) (filled : last ≠ "") (moves : last ≠ ".") :
    parentNames path = above := by
  have whole : parentNames.withoutTail (last :: above.reverse) = last :: above.reverse := by
    unfold parentNames.withoutTail
    split <;> simp_all
  rw [parentNames, cut, List.reverse_concat, whole]
  simp

theorem accepts_of_read (completes : tree.Completes) (h : tree.read path = .ok content) :
    tree.accepts path := by
  intro new
  obtain ⟨-, above, last, parent, cut, filled, moves, walk, directory, -⟩ := named_of_read h
  have made : tree.makeParents path = .ok tree := by
    rw [makeParents, parentNames_of_named cut filled moves]
    exact makeAlong_of_walk walk directory
  obtain ⟨place, found⟩ := exists_target_of_read h
  rw [save_of_complete made found (completes new)]

end PolicyRouting.Console.FileTree
