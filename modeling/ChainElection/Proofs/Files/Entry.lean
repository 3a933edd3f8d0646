import Mathlib.Tactic
import ChainElection.Proofs.Files.Directories

/-!
The entry that a path names.

A path may end with a slash or with dots, which stand behind its last name. Then
what one finds there is not what stands under the name in its directory, as the
name has to lead to a directory for the path to go on.

* `FileSystem.Entry` says in which directory a path has its last name, and
  `exists_entry_of_walk` that a path that leads anywhere has one.
* `Walks.ends_with_name`: what is not a directory is only found where a path
  ends with its name.
* `inspect_of_entry` and `inspect_of_names` say when something is found: if the
  path ends with its name and something stands under it, or if the names lead to
  a directory that may be searched.
-/

namespace ChainElection

namespace Path

variable {p : Path} {name : String}

/-- A path that ends with a name: the steps in front of it, and those behind it, which stay where they are. -/
structure EndsWith (p : Path) (name : String) (front dots : List String) : Prop where
  steps : p.steps = front ++ name :: dots
  names : p.names = p.names.dropLast ++ [name]
  undots : Undots front p.names.dropLast
  dots : ∀ s ∈ dots, isDot s = true
  isDot : isDot name = false
  ne_up : name ≠ up

lemma exists_endsWith (h : p.fileName? = some name) : ∃ front dots, EndsWith p name front dots := by
  rw [fileName?] at h
  split at h
  · cases h
  · rename_i n hlast
    split_ifs at h with hup
    obtain rfl := Option.some.inj h
    obtain ⟨short, hshort⟩ := List.getLast?_eq_some_iff.mp hlast
    have hsplit := hshort
    rw [Path.names, List.filter_eq_append_iff] at hsplit
    obtain ⟨long, back, hsteps, hlong, hback⟩ := hsplit
    rw [List.filter_eq_cons_iff] at hback
    obtain ⟨dots, dots', rfl, hdots, hname, hdots'⟩ := hback
    refine ⟨long ++ dots, dots', ?_⟩
    have hdropped : p.names.dropLast = short := by rw [hshort, List.dropLast_concat]
    refine ⟨by rw [hsteps, List.append_assoc], by rw [hdropped, hshort], ?_, ?_, ?_, hup⟩
    · have hfront : (long ++ dots).filter (fun step => !isDot step) = short := by
        rw [List.filter_append, hlong, List.filter_eq_nil_iff.mpr hdots, List.append_nil]
      rw [hdropped, ← hfront]
      exact undots_filter _
    · simpa using List.filter_eq_nil_iff.mp hdots'
    · simpa using hname

/-- Where the last step is the name, there is nothing behind it. -/
lemma EndsWith.dots_eq_nil {front dots : List String} (h : EndsWith p name front dots)
    (hlast : p.steps.getLast? = some name) : dots = [] := by
  cases dots using List.reverseRecOn with
  | nil => rfl
  | append_singleton dots step =>
      rw [h.steps, ← List.cons_append, ← List.append_assoc, List.getLast?_concat] at hlast
      obtain rfl := Option.some.inj hlast
      cases h.isDot.symm.trans (h.dots step (List.mem_append_right dots List.mem_cons_self))

lemma undots_names (p : Path) : Undots p.steps p.names := undots_filter p.steps

lemma map_fst_sizedFrom (size : ℕ) (parts : List String) :
    (sizedFrom size parts).map Prod.fst = parts.filter fun step => !isDot step := by
  induction parts generalizing size with
  | nil => rfl
  | cons part parts ih =>
      rw [sizedFrom]
      cases hdot : isDot part with
      | true => rw [if_pos rfl, ih, List.filter_cons_of_neg (by simp [hdot])]
      | false =>
          rw [if_neg Bool.false_ne_true, List.map_cons, ih, List.filter_cons_of_pos (by simp [hdot])]

/-- The names in a text are those of the path that is read from it. -/
lemma map_fst_sizedNames (s : String) : (sizedNames s).map Prod.fst = (read s).names := by
  have hslash : ([slash].filter fun step => !Path.isDot step) = [] := rfl
  have hempty (step : String) : (!Path.isDot step && decide (step ≠ "")) = !Path.isDot step := by
    rcases eq_or_ne step "" with rfl | hne
    · rfl
    · rw [decide_eq_true hne, Bool.and_true]
  rw [sizedNames, map_fst_sizedFrom, names, read, List.filter_append, List.filter_filter]
  simp only [hempty]
  split_ifs
  · rw [hslash, List.append_nil]
  · rw [List.filter_nil, List.append_nil]

example : sizedNames "data/./sub/index.db/" = [("data", 4), ("sub", 10), ("index.db", 19)] := by decide

end Path

namespace FileSystem

variable {α : Type} {fs fs' : FileSystem α} {follow : Bool} {links : ℕ} {p : Path} {d q : Place}
  {n : FileNode α} {name : String} {dots : List String}

/-- The path has its last name in the directory at a place. -/
structure Entry (fs : FileSystem α) (p : Path) (d : Place) (name : String) : Prop where
  walks : Walks fs true maxLinks (fs.start p) p.names.dropLast d
  directory : fs.DirectoryAt d
  fileName : p.fileName? = some name

lemma exists_entry_of_walk (hfs : fs.IsTree) (hname : p.fileName? = some name)
    (h : fs.walk follow p = .ok q) : ∃ d, fs.Entry p d name ∧
      ∃ front dots links, p.EndsWith name front dots ∧ Walks fs follow links d (name :: dots) q := by
  obtain ⟨front, dots, hends⟩ := Path.exists_endsWith hname
  obtain ⟨-, -, hwalks⟩ := walk_eq_ok_iff.mp h
  rw [hends.steps] at hwalks
  obtain ⟨d, links, hd, hfront, hback⟩ := hwalks.split hfs (hfs.start p) (List.cons_ne_nil name dots)
  exact ⟨d, ⟨hfront.undots hends.undots, hd, hname⟩, front, dots, links, hends, hback⟩

/-- What is not a directory is only found where the path ends with its name. -/
lemma Walks.ends_with_name {front : List String} (hfs : fs.IsTree)
    (h : Walks fs false links d (name :: dots) q) (hd : fs.DirectoryAt d)
    (hends : p.EndsWith name front dots) (hq : ¬ fs.DirectoryAt q) : dots = [] ∧ q = d ++ [name] := by
  cases h with
  | stay hdot => cases hends.isDot.symm.trans hdot
  | up => exact absurd rfl hends.ne_up
  | @enter links d q step rest n _ _ hnode hn hrest =>
      obtain rfl := hrest.eq_of_dots hends.dots
      exact absurd ⟨n, hnode, hn⟩ hq
  | @link links d q step rest target _ _ _ hfollow hrest =>
      -- the link is followed, so there is something behind it, for which it has to lead to a directory
      have hne : dots ≠ [] := fun hnil => Bool.false_ne_true (hfollow hnil)
      obtain ⟨d', links', hd', -, hback⟩ := hrest.split hfs (hfs.target hd) hne
      obtain rfl := hback.eq_of_dots hends.dots
      exact absurd hd' hq
  | last => exact ⟨rfl, rfl⟩

/-- What stands in a directory that may be searched is found under its name. -/
lemma Walks.of_node (hfs : fs.IsTree) (hopen : fs.isClosed d = false)
    (hnode : fs.node? (d ++ [name]) = some n) : Walks fs false links d [name] (d ++ [name]) := by
  cases hdir : n.isDirectory with
  | true => exact .enter hopen (hfs.isName hnode) hnode hdir .nil
  | false =>
      refine .last hopen (hfs.isName hnode) fun m hm => ?_
      obtain rfl := Option.some.inj (hnode.symm.trans hm)
      exact ⟨hdir, fun hfollow => absurd hfollow Bool.false_ne_true⟩

/-- Where a path ends with its name, what stands under it is found. -/
lemma inspect_of_entry (hfs : fs.IsTree) (hentry : fs.Entry p d name) (hempty : p.size ≠ 0)
    (hlong : p.size ≤ Path.maxSize) (hopen : fs.isClosed d = false) (hends : p.steps.getLast? = some name)
    (hnode : fs.node? (d ++ [name]) = some n) : fs.inspect false p = .ok n := by
  obtain ⟨front, dots, h⟩ := Path.exists_endsWith hentry.fileName
  obtain rfl := h.dots_eq_nil hends
  obtain ⟨links, happend⟩ := (hentry.walks.dotted h.undots hentry.directory hopen).append hentry.directory
  have hwalks := happend (List.cons_ne_nil name []) (Walks.of_node hfs hopen hnode)
  rw [← h.steps] at hwalks
  exact inspect_eq_ok_iff.mpr ⟨_, walk_eq_ok_iff.mpr ⟨hempty, hlong, hwalks⟩, hnode⟩

/-- Where the names lead to a directory that may be searched, something is found. -/
lemma inspect_of_names (hempty : p.size ≠ 0) (hlong : p.size ≤ Path.maxSize)
    (h : Walks fs true maxLinks (fs.start p) p.names q) (hq : fs.DirectoryAt q)
    (hopen : fs.isClosed q = false) : ∃ n, fs.inspect false p = .ok n ∧ ∀ c, n ≠ .regular c := by
  obtain ⟨m, hm, hdir⟩ := hq
  have hwalks := h.dotted p.undots_names ⟨m, hm, hdir⟩ hopen
  obtain ⟨q', n, hunfollowed, hn⟩ := hwalks.unfollowed hm
  refine ⟨n, inspect_eq_ok_iff.mpr ⟨q', walk_eq_ok_iff.mpr ⟨hempty, hlong, hunfollowed⟩, hn⟩, ?_⟩
  rintro c rfl
  obtain rfl : q' = q := (hunfollowed.followed fun target htarget => by cases hn.symm.trans htarget).unique hwalks
  obtain rfl := Option.some.inj (hn.symm.trans hm)
  cases hdir

end FileSystem

end ChainElection
