import Mathlib.Tactic
import ChainElection.Proofs.Files.Walk

/-!
Making directories on the way to a place.

* `FileSystem.Reached` says what has become of the files once the directories of
  a path are there: either nothing has changed, or some were made (`Made`), each
  where names on the way lead, one in the other.
* `reached_makeDirectories` says that this is what making them comes to, and
  `makeDirectories_again` that nothing is made a second time.
* `IsTree.makeDirectories`: the files are still a tree.
-/

namespace ChainElection

namespace FileSystem

variable {α : Type} {fs fs' fs₁ : FileSystem α} {follow : Bool} {p : Path} {d q : Place}
  {n : FileNode α} {isAbsolute : Bool} {name : String} {size : ℕ} {above : List (String × ℕ)}

/-! ### Paths -/

lemma walk_eq_ok_iff : fs.walk follow p = .ok q ↔
    p.size ≠ 0 ∧ p.size ≤ Path.maxSize ∧ Walks fs follow maxLinks (fs.start p) p.steps q := by
  rw [walk]
  split_ifs with hempty hlong
  · exact ⟨fun h => (by cases h), fun h => absurd hempty h.1⟩
  · exact ⟨fun h => (by cases h), fun h => absurd h.2.1 (not_le.mpr hlong)⟩
  · rw [walkFrom_eq_ok_iff]
    exact ⟨fun h => ⟨hempty, not_lt.mp hlong, h⟩, fun h => h.2.2⟩

lemma inspect_eq_ok_iff :
    fs.inspect follow p = .ok n ↔ ∃ q, fs.walk follow p = .ok q ∧ fs.node? q = some n := by
  rw [inspect]
  cases hwalk : fs.walk follow p with
  | error f => simp
  | ok q =>
      cases hnode : fs.node? q with
      | none => simp [hnode]
      | some m => simp [hnode]

lemma isDirectory_iff : fs.isDirectory p = true ↔ ∃ q, fs.walk true p = .ok q ∧ fs.DirectoryAt q := by
  have hinspect : fs.isDirectory p = true ↔ ∃ n, fs.inspect true p = .ok n ∧ n.isDirectory = true := by
    rw [isDirectory]
    cases fs.inspect true p with
    | error f => simp
    | ok n => simp
  rw [hinspect]
  constructor
  · rintro ⟨n, hn, hdir⟩
    obtain ⟨q, hwalk, hnode⟩ := inspect_eq_ok_iff.mp hn
    exact ⟨q, hwalk, n, hnode, hdir⟩
  · rintro ⟨q, hwalk, n, hnode, hdir⟩
    exact ⟨n, inspect_eq_ok_iff.mpr ⟨q, hwalk, hnode⟩, hdir⟩

lemma node?_put (fs : FileSystem α) (p q : Place) (n : FileNode α) :
    (fs.put p n).node? q = if p = q then some n else fs.node? q := by
  rw [node?, put, node?]
  by_cases hq : q = []
  · subst hq
    rw [if_pos rfl, if_pos rfl, Table.get?_set]
    split_ifs <;> rfl
  · rw [if_neg hq, if_neg hq, Table.get?_set]

lemma node?_put_self (fs : FileSystem α) (q : Place) (n : FileNode α) : (fs.put q n).node? q = some n := by
  rw [node?_put, if_pos rfl]

/-- A path that leads to a directory does so when there are more of them. -/
lemma Grows.isDirectory (h : Grows fs fs') (hdir : fs.isDirectory p = true) : fs'.isDirectory p = true := by
  obtain ⟨q, hwalk, n, hn, hnode⟩ := isDirectory_iff.mp hdir
  obtain ⟨hempty, hlong, hwalks⟩ := walk_eq_ok_iff.mp hwalk
  rw [← h.start] at hwalks
  exact isDirectory_iff.mpr ⟨q, walk_eq_ok_iff.mpr ⟨hempty, hlong, hwalks.grows h⟩, n, h.kept hn, hnode⟩

/-! ### One directory -/

lemma grows_put (hq : fs.node? q = none) : Grows fs (fs.put q .directory) := by
  refine ⟨rfl, fun p => ?_⟩
  rw [node?_put]
  split_ifs with h
  · exact .inr ⟨h ▸ hq, rfl⟩
  · exact .inl rfl

/-- A directory is made where the path leads, in another directory. -/
lemma makeDirectory_eq_ok_iff : fs.makeDirectory p = .ok fs' ↔ ∃ q, fs.walk false p = .ok q ∧
    fs.node? q = none ∧ fs.node? q.dropLast = some .directory ∧ fs' = fs.put q .directory := by
  constructor
  · intro h
    rw [makeDirectory] at h
    split at h
    · cases h
    · rename_i q hwalk
      split at h
      · cases h
      · rename_i hnode
        split at h
        · rename_i hparent
          exact ⟨q, hwalk, hnode, hparent, (Except.ok.inj h).symm⟩
        · cases h
  · rintro ⟨q, hwalk, hnode, hparent, rfl⟩
    simp only [makeDirectory, hwalk, hnode, hparent]

/-- The path leads to a directory that was made. -/
lemma walk_made (hwalk : fs.walk false p = .ok q) (hnode : fs.node? q = none) :
    (fs.put q .directory).walk true p = .ok q := by
  obtain ⟨hempty, hlong, hwalks⟩ := walk_eq_ok_iff.mp hwalk
  have hnew := fs.node?_put_self q .directory
  refine walk_eq_ok_iff.mpr ⟨hempty, hlong, (hwalks.grows (grows_put hnode)).followed fun target htarget => ?_⟩
  cases hnew.symm.trans htarget

/-- What is missing at the end of steps has a name. -/
lemma Walks.exists_name {links : ℕ} {place : Place} {steps : List String} (hfs : fs.IsTree)
    (h : Walks fs follow links place steps q) (hplace : fs.DirectoryAt place) (hq : fs.node? q = none) :
    ∃ r name, q = r ++ [name] ∧ Path.IsName name := by
  induction h with
  | nil =>
      obtain ⟨n, hn, -⟩ := hplace
      cases hq.symm.trans hn
  | stay hdot hopen hrest ih => exact ih hplace hq
  | up hopen hrest ih => exact ih (hfs.dropLast hplace) hq
  | enter hopen hname hnode hn hrest ih => exact ih ⟨_, hnode, hn⟩ hq
  | link hopen hname hnode hfollow hrest ih => exact ih (hfs.target hplace) hq
  | last hopen hname hlast => exact ⟨_, _, rfl, hname⟩

/-- A tree remains one if something is put into a directory in which it was missing. -/
lemma IsTree.put (hfs : fs.IsTree) (hd : fs.DirectoryAt d) (hname : Path.IsName name)
    (hfresh : fs.node? (d ++ [name]) = none) (n : FileNode α) : (fs.put (d ++ [name]) n).IsTree := by
  have hkept {p : Place} (hp : fs.DirectoryAt p) : (fs.put (d ++ [name]) n).DirectoryAt p := by
    obtain ⟨m, hm, hdir⟩ := hp
    have hne : d ++ [name] ≠ p := by
      rintro rfl
      cases hfresh.symm.trans hm
    exact ⟨m, by rw [node?_put, if_neg hne, hm], hdir⟩
  refine ⟨hkept hfs.root, hkept hfs.current, fun {p name' m} hm => ?_, fun {p name' m} hm => ?_⟩
  · rw [node?_put] at hm
    split_ifs at hm with hsame
    · obtain ⟨rfl, -⟩ := List.append_inj' hsame rfl
      exact hkept hd
    · exact hkept (hfs.above hm)
  · rw [node?_put] at hm
    split_ifs at hm with hsame
    · obtain ⟨-, hlast⟩ := List.append_inj' hsame rfl
      exact List.singleton_inj.mp hlast ▸ hname
    · exact hfs.isName hm

/-- The root alone is a tree. -/
lemma isTree_empty : (⟨Table.empty, []⟩ : FileSystem α).IsTree := by
  have hroot : (⟨Table.empty, []⟩ : FileSystem α).DirectoryAt [] := ⟨_, rfl, rfl⟩
  have hnone (p : Place) (name : String) : (⟨Table.empty, []⟩ : FileSystem α).node? (p ++ [name]) = none := by
    rw [node?, if_neg (List.append_ne_nil_of_right_ne_nil p (List.cons_ne_nil name []))]
    rfl
  refine ⟨hroot, hroot, fun {p name n} hn => ?_, fun {p name n} hn => ?_⟩
  · cases (hnone p name).symm.trans hn
  · cases (hnone p name).symm.trans hn

lemma IsTree.makeDirectory (hfs : fs.IsTree) (h : fs.makeDirectory p = .ok fs') : fs'.IsTree := by
  obtain ⟨q, hwalk, hnode, hparent, rfl⟩ := makeDirectory_eq_ok_iff.mp h
  obtain ⟨-, -, hwalks⟩ := walk_eq_ok_iff.mp hwalk
  obtain ⟨r, name, rfl, hname⟩ := hwalks.exists_name hfs (hfs.start p) hnode
  rw [List.dropLast_concat] at hparent
  exact hfs.put ⟨_, hparent, rfl⟩ hname hnode .directory

/-! ### All directories on the way -/

/-- Directories were made on the way that a path goes, the last of them where it leads. Each of them is
where the first names of the path lead, and none is beside the others. -/
structure Made (fs fs' : FileSystem α) (p : Path) (d : Place) : Prop where
  fresh : fs.node? d = none
  current : fs'.current = fs.current
  only : ∀ q, fs'.node? q = fs.node? q ∨ fs.node? q = none ∧ fs'.node? q = some .directory ∧ q <+: d ∧
    ∃ k, 0 < k ∧ k ≤ p.steps.length ∧ Walks fs' true maxLinks (fs'.start p) (p.steps.take k) q

lemma Made.grows (h : Made fs fs' p d) : Grows fs fs' :=
  ⟨h.current, fun q => (h.only q).imp_right fun hmade => ⟨hmade.1, hmade.2.1⟩⟩

/-- Nothing stands in the last directory that was made. -/
lemma Made.missing (hfs : fs.IsTree) (h : Made fs fs' p d) (name : String) :
    fs'.node? (d ++ [name]) = none := by
  rcases h.only (d ++ [name]) with hsame | ⟨-, -, hprefix, -⟩
  · rw [hsame, hfs.missing h.fresh]
  · have hlength := hprefix.length_le
    rw [List.length_append, List.length_singleton] at hlength
    omega

/-- The path leads to a directory, after directories were made on the way if some were missing. -/
structure Reached (fs fs' : FileSystem α) (p : Path) (d : Place) : Prop where
  walk : fs'.walk true p = .ok d
  directory : fs'.DirectoryAt d
  made : fs' = fs ∨ Made fs fs' p d

lemma reached_of_isDirectory (h : fs.isDirectory p = true) : ∃ d, Reached fs fs p d := by
  obtain ⟨d, hwalk, hdir⟩ := isDirectory_iff.mp h
  exact ⟨d, hwalk, hdir, .inl rfl⟩

/-- The ways to come to the end with all directories on the way: the last one is there, or it is made,
or those above it have to be made first. -/
lemma makeDirectories_cons_cases
    (hp : p = ⟨isAbsolute, (above.map Prod.fst).reverse ++ [name], size⟩)
    (h : fs.makeDirectories isAbsolute ((name, size) :: above) = (.ok (), fs')) :
    fs' = fs ∧ fs.isDirectory p = true ∨ fs.makeDirectory p = .ok fs' ∨
      fs.makeDirectory p = .error .missing ∧ ∃ fs₁, fs.makeDirectories isAbsolute above = (.ok (), fs₁) ∧
        (fs₁.makeDirectory p = .ok fs' ∨ fs' = fs₁ ∧ fs₁.isDirectory p = true) := by
  subst hp
  rw [makeDirectories] at h
  split at h
  · rename_i hmissing
    split at h
    · cases h
    · rename_i fs₁ habove
      refine .inr (.inr ⟨hmissing, fs₁, habove, ?_⟩)
      dsimp only at h
      split at h
      · rename_i fs₂ hmade
        obtain rfl : fs₂ = fs' := congrArg Prod.snd h
        exact .inl hmade
      · split_ifs at h with hdir
        · exact .inr ⟨(congrArg Prod.snd h).symm, hdir⟩
        · cases h
  · dsimp only at h
    split at h
    · rename_i fs₂ hmade
      obtain rfl : fs₂ = fs' := congrArg Prod.snd h
      exact .inr (.inl hmade)
    · split_ifs at h with hdir
      · exact .inl ⟨(congrArg Prod.snd h).symm, hdir⟩
      · cases h

/-- If the last directory can be made, that is all there is to do. -/
lemma makeDirectories_of_makeDirectory
    (hp : p = ⟨isAbsolute, (above.map Prod.fst).reverse ++ [name], size⟩) (h : fs.makeDirectory p = .ok fs') :
    fs.makeDirectories isAbsolute ((name, size) :: above) = (.ok (), fs') := by
  rw [makeDirectories]
  simp only [← hp, h]

/-- Where there is nothing under a name, steps end with it. -/
lemma Walks.eq_of_missing {links : ℕ} {place : Place} {rest : List String}
    (h : Walks fs follow links place (name :: rest) q)
    (hdot : Path.isDot name = false) (hup : name ≠ Path.up) (hnode : fs.node? (place ++ [name]) = none) :
    q = place ++ [name] := by
  cases h with
  | stay hdot' => cases hdot.symm.trans hdot'
  | up => exact absurd rfl hup
  | enter _ _ hn => cases hnode.symm.trans hn
  | link _ _ hn => cases hnode.symm.trans hn
  | last => rfl

/-- The path goes on from another one by a name. -/
structure Extends (p p₁ : Path) (name : String) : Prop where
  isAbsolute : p.isAbsolute = p₁.isAbsolute
  steps : p.steps = p₁.steps ++ [name]
  isDot : Path.isDot name = false
  ne_up : name ≠ Path.up

lemma Extends.start {p₁ : Path} (h : Extends p p₁ name) (fs : FileSystem α) : fs.start p = fs.start p₁ := by
  rw [FileSystem.start, FileSystem.start, h.isAbsolute]

/-- Where directories were made, a path goes on to the next name in the last of them. -/
lemma Made.eq_of_walk {p₁ : Path} (hfs : fs.IsTree) (hfs₁ : fs₁.IsTree) (hmade : Made fs fs₁ p₁ d)
    (hwalk : fs₁.walk true p₁ = .ok d) (hp : Extends p p₁ name) (h : fs₁.walk follow p = .ok q) :
    q = d ++ [name] := by
  obtain ⟨-, -, hwalks⟩ := walk_eq_ok_iff.mp h
  obtain ⟨-, -, hwalks₁⟩ := walk_eq_ok_iff.mp hwalk
  rw [hp.steps, hp.start] at hwalks
  obtain ⟨d', links, -, hfront, hback⟩ := hwalks.split hfs₁ (hfs₁.start p₁) (List.cons_ne_nil name [])
  obtain rfl := hwalks₁.unique hfront
  exact hback.eq_of_missing hp.isDot hp.ne_up (hmade.missing hfs name)

/-- The first directory that has to be made. -/
lemma reached_of_makeDirectory (hp : p.steps ≠ []) (h : fs.makeDirectory p = .ok fs') :
    ∃ d, Reached fs fs' p d := by
  obtain ⟨q, hwalk, hnode, -, rfl⟩ := makeDirectory_eq_ok_iff.mp h
  have hmade := walk_made hwalk hnode
  have hnew := fs.node?_put_self q .directory
  refine ⟨q, hmade, ⟨_, hnew, rfl⟩, .inr ⟨hnode, rfl, fun q' => ?_⟩⟩
  rw [node?_put]
  split_ifs with hsame
  · subst hsame
    refine .inr ⟨hnode, rfl, List.prefix_rfl, p.steps.length, List.length_pos_of_ne_nil hp, le_rfl, ?_⟩
    rw [List.take_length]
    exact (walk_eq_ok_iff.mp hmade).2.2
  · exact .inl rfl

/-- One more directory has to be made, after others. -/
lemma Made.makeDirectory {p₁ : Path} (hfs : fs.IsTree) (hfs₁ : fs₁.IsTree) (hmade : Made fs fs₁ p₁ d)
    (hwalk : fs₁.walk true p₁ = .ok d) (hp : Extends p p₁ name) (h : fs₁.makeDirectory p = .ok fs') :
    Reached fs fs' p (d ++ [name]) := by
  obtain ⟨q, hq, hnode, -, rfl⟩ := makeDirectory_eq_ok_iff.mp h
  obtain rfl := hmade.eq_of_walk hfs hfs₁ hwalk hp hq
  have hgrows : Grows fs₁ (fs₁.put (d ++ [name]) .directory) := grows_put hnode
  have hnew := fs₁.node?_put_self (d ++ [name]) .directory
  have hreached := walk_made hq hnode
  have hfresh := hfs.missing hmade.fresh name
  refine ⟨hreached, ⟨_, hnew, rfl⟩, .inr ⟨hfresh, hmade.current, fun q' => ?_⟩⟩
  rcases eq_or_ne (d ++ [name]) q' with rfl | hne
  · refine .inr ⟨hfresh, hnew, List.prefix_rfl, p.steps.length, ?_, le_rfl, ?_⟩
    · rw [hp.steps, List.length_append, List.length_singleton]
      exact Nat.succ_pos _
    · rw [List.take_length]
      exact (walk_eq_ok_iff.mp hreached).2.2
  · rw [node?_put, if_neg hne]
    rcases hmade.only q' with hsame | ⟨hmissing, hdir, hprefix, k, hpos, hk, hwalks⟩
    · exact .inl hsame
    · refine .inr ⟨hmissing, hdir, hprefix.trans (List.prefix_append ..), k, hpos, ?_, ?_⟩
      · rw [hp.steps, List.length_append]
        omega
      · rw [hgrows.start, hp.start, hp.steps, List.take_append_of_le_length hk]
        exact hwalks.grows hgrows

lemma IsTree.makeDirectories (hfs : fs.IsTree) {dirs : List (String × ℕ)}
    (h : fs.makeDirectories isAbsolute dirs = (.ok (), fs')) : fs'.IsTree := by
  induction dirs generalizing fs' with
  | nil =>
      obtain rfl : fs = fs' := congrArg Prod.snd h
      exact hfs
  | cons dir above ih =>
      obtain ⟨rfl, -⟩ | hmade | ⟨-, fs₁, habove, hmade | ⟨rfl, -⟩⟩ := makeDirectories_cons_cases rfl h
      · exact hfs
      · exact hfs.makeDirectory hmade
      · exact (ih habove).makeDirectory hmade
      · exact ih habove

/-- Making all directories of a path, from the last to the first, comes to one of two things: they are all
there, or some of them were made, one in the other, and the path leads to the last one. -/
theorem reached_makeDirectories (hfs : fs.IsTree)
    (hp : p = ⟨isAbsolute, (above.map Prod.fst).reverse ++ [name], size⟩)
    (hnames : ∀ dir ∈ (name, size) :: above, Path.isDot dir.1 = false ∧ dir.1 ≠ Path.up)
    (h : fs.makeDirectories isAbsolute ((name, size) :: above) = (.ok (), fs')) :
    ∃ d, Reached fs fs' p d := by
  induction above generalizing p name size fs' with
  | nil =>
      obtain ⟨rfl, hdir⟩ | hmade | ⟨hmissing, fs₁, habove, hrest⟩ := makeDirectories_cons_cases hp h
      · exact reached_of_isDirectory hdir
      · exact reached_of_makeDirectory (by simp [hp]) hmade
      · obtain rfl : fs = fs₁ := congrArg Prod.snd habove
        obtain hmade | ⟨rfl, hdir⟩ := hrest
        · cases hmissing.symm.trans hmade
        · exact reached_of_isDirectory hdir
  | cons dir above ih =>
      obtain ⟨rfl, hdir⟩ | hmade | ⟨hmissing, fs₁, habove, hrest⟩ := makeDirectories_cons_cases hp h
      · exact reached_of_isDirectory hdir
      · exact reached_of_makeDirectory (by simp [hp]) hmade
      · -- the directories above were there, which is no reason to try again, or they were made
        obtain ⟨name₁, size₁⟩ := dir
        obtain ⟨hdot, hup⟩ := hnames (name, size) List.mem_cons_self
        have hextends : Extends p ⟨isAbsolute, (above.map Prod.fst).reverse ++ [name₁], size₁⟩ name :=
          ⟨by rw [hp], by simp [hp], hdot, hup⟩
        obtain ⟨d, hwalk, -, rfl | hmade₁⟩ :=
          ih rfl (fun dir hdir => hnames dir (List.mem_cons_of_mem _ hdir)) habove
        · obtain hmade | ⟨rfl, hdir⟩ := hrest
          · cases hmissing.symm.trans hmade
          · exact reached_of_isDirectory hdir
        · have hfs₁ : fs₁.IsTree := hfs.makeDirectories habove
          obtain hmade | ⟨rfl, hdir⟩ := hrest
          · exact ⟨_, hmade₁.makeDirectory hfs hfs₁ hwalk hextends hmade⟩
          · obtain ⟨q, hq, n, hn, -⟩ := isDirectory_iff.mp hdir
            obtain rfl := hmade₁.eq_of_walk hfs hfs₁ hwalk hextends hq
            cases (hmade₁.missing hfs name).symm.trans hn

/-- A directory that is there is not made again, and neither are those above it. -/
lemma makeDirectories_of_isDirectory
    (hp : p = ⟨isAbsolute, (above.map Prod.fst).reverse ++ [name], size⟩) (h : fs.isDirectory p = true) :
    fs.makeDirectories isAbsolute ((name, size) :: above) = (.ok (), fs) := by
  obtain ⟨q, hwalk, n, hn, -⟩ := isDirectory_iff.mp h
  obtain ⟨hempty, hlong, hwalks⟩ := walk_eq_ok_iff.mp hwalk
  obtain ⟨q', n', hunfollowed, hn'⟩ := hwalks.unfollowed hn
  have hmake : fs.makeDirectory p = .error .exists := by
    rw [makeDirectory, walk_eq_ok_iff.mpr ⟨hempty, hlong, hunfollowed⟩]
    simp only [hn']
  rw [makeDirectories]
  simp only [← hp, hmake, h, if_true]

/-- Directories that were made are not made a second time. -/
theorem makeDirectories_again (hfs : fs.IsTree) {dirs : List (String × ℕ)}
    (hnames : ∀ dir ∈ dirs, Path.isDot dir.1 = false ∧ dir.1 ≠ Path.up)
    (h : fs.makeDirectories isAbsolute dirs = (.ok (), fs')) :
    fs'.makeDirectories isAbsolute dirs = (.ok (), fs') := by
  cases dirs with
  | nil => rfl
  | cons dir above =>
      obtain ⟨name, size⟩ := dir
      obtain ⟨d, hwalk, hdir, -⟩ := reached_makeDirectories hfs rfl hnames h
      exact makeDirectories_of_isDirectory rfl (isDirectory_iff.mpr ⟨d, hwalk, hdir⟩)

end FileSystem

end ChainElection
