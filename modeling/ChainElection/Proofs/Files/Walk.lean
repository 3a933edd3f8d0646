import Mathlib.Tactic
import ChainElection.Files.System

/-!
Walking along paths.

* `FileSystem.Walks` says step by step where a path leads; `walkFrom_eq_ok_iff`
  says that this is where one gets.
* `FileSystem.IsTree` says that whatever stands somewhere stands in a directory.
* `Walks.append` and `Walks.split`: a way goes on from a directory to which its
  first steps lead.
* `Walks.undots` and `Walks.dotted`: steps that stay where they are can be left
  out, and put in on the way to a directory that may be searched.
* `Walks.followed` and `Walks.unfollowed`: what difference it makes whether a link
  at the end is followed.
* `Walks.grows`: more directories do not change where steps lead.
-/

namespace ChainElection

namespace Path

/-- The step is a name that an entry of a directory can have. -/
structure IsName (step : String) : Prop where
  isDot : isDot step = false
  ne_up : step ≠ up
  size : nameSize step ≤ maxNameSize

lemma IsName.of {step : String} (hslash : ¬ step = slash) (hhere : ¬ step = here)
    (hup : ¬ step = up) (hsize : ¬ maxNameSize < nameSize step) : IsName step :=
  ⟨by simp [Path.isDot, hslash, hhere], hup, not_lt.mp hsize⟩

/-- The second list of steps is the first one without some of those that stay where they are. -/
inductive Undots : List String → List String → Prop where
  | nil : Undots [] []
  | keep (step : String) {long short : List String} (h : Undots long short) :
      Undots (step :: long) (step :: short)
  | drop {step : String} {long short : List String} (hdot : Path.isDot step = true)
      (h : Undots long short) : Undots (step :: long) short

variable {long short : List String}

lemma Undots.append (front : List String) (h : Undots long short) :
    Undots (front ++ long) (front ++ short) := by
  induction front with
  | nil => exact h
  | cons step front ih => exact .keep step ih

lemma undots_filter (steps : List String) : Undots steps (steps.filter fun step => !isDot step) := by
  induction steps with
  | nil => exact .nil
  | cons step steps ih =>
      cases hdot : isDot step with
      | true =>
          rw [List.filter_cons_of_neg (by simp [hdot])]
          exact .drop hdot ih
      | false =>
          rw [List.filter_cons_of_pos (by simp [hdot])]
          exact .keep step ih

lemma Undots.eq_nil (h : Undots [] short) : short = [] := by
  cases h
  rfl

/-- What is kept first stands behind steps that stay where they are. -/
lemma Undots.exists_of_cons {step : String} (h : Undots long (step :: short)) : ∃ dots rest,
    long = dots ++ step :: rest ∧ (∀ s ∈ dots, isDot s = true) ∧ Undots rest short := by
  generalize hshort : step :: short = steps at h
  induction h with
  | nil => cases hshort
  | @keep s rest steps h _ =>
      obtain ⟨rfl, rfl⟩ := List.cons.inj hshort
      exact ⟨[], rest, rfl, by simp, h⟩
  | @drop s rest steps hdot h ih =>
      obtain ⟨dots, rest', rfl, hdots, hrest⟩ := ih hshort
      exact ⟨s :: dots, rest', rfl, List.forall_mem_cons.mpr ⟨hdot, hdots⟩, hrest⟩

lemma Undots.forall_of_nil (h : Undots long []) : ∀ s ∈ long, isDot s = true := by
  generalize hshort : ([] : List String) = steps at h
  induction h with
  | nil => simp
  | keep s h _ => cases hshort
  | drop hdot h ih => simpa [hdot] using ih hshort

end Path

namespace FileSystem

variable {α : Type} {fs fs' : FileSystem α} {follow : Bool} {links : ℕ} {place d q : Place}
  {step : String} {rest steps long short : List String} {n : FileNode α}

/-- Steps lead from a place to another one, with a number of links that may be followed. -/
inductive Walks (fs : FileSystem α) (follow : Bool) : ℕ → Place → List String → Place → Prop where
  | nil {links : ℕ} {place : Place} : Walks fs follow links place [] place
  | stay {links : ℕ} {place q : Place} {step : String} {rest : List String}
      (hdot : Path.isDot step = true) (hopen : step ≠ Path.slash → fs.isClosed place = false)
      (hrest : Walks fs follow links place rest q) : Walks fs follow links place (step :: rest) q
  | up {links : ℕ} {place q : Place} {rest : List String} (hopen : fs.isClosed place = false)
      (hrest : Walks fs follow links place.dropLast rest q) :
      Walks fs follow links place (Path.up :: rest) q
  | enter {links : ℕ} {place q : Place} {step : String} {rest : List String} {n : FileNode α}
      (hopen : fs.isClosed place = false) (hname : Path.IsName step)
      (hnode : fs.node? (place ++ [step]) = some n) (hn : n.isDirectory = true)
      (hrest : Walks fs follow links (place ++ [step]) rest q) :
      Walks fs follow links place (step :: rest) q
  | link {links : ℕ} {place q : Place} {step : String} {rest : List String} {target : Path}
      (hopen : fs.isClosed place = false) (hname : Path.IsName step)
      (hnode : fs.node? (place ++ [step]) = some (.link target)) (hfollow : rest = [] → follow = true)
      (hrest : Walks fs follow links (if target.isAbsolute then [] else place) (target.steps ++ rest) q) :
      Walks fs follow (links + 1) place (step :: rest) q
  | last {links : ℕ} {place : Place} {step : String} (hopen : fs.isClosed place = false)
      (hname : Path.IsName step)
      (hlast : ∀ n, fs.node? (place ++ [step]) = some n →
        n.isDirectory = false ∧ (follow = true → ∀ target, n ≠ .link target)) :
      Walks fs follow links place [step] (place ++ [step])

/-- Where one gets is where the steps lead. -/
lemma walks_of_walkFrom (h : fs.walkFrom follow links place steps = .ok q) :
    Walks fs follow links place steps q := by
  fun_induction fs.walkFrom follow links place steps with
  | case1 links place =>
      obtain rfl := Except.ok.inj h
      exact .nil
  | case2 links place rest ih => exact .stay rfl (fun hne => absurd rfl hne) (ih h)
  | case4 links place rest hopen hslash ih => exact .stay rfl (fun _ => eq_false_of_ne_true hopen) (ih h)
  | case5 links place rest hopen hslash hhere ih => exact .up (eq_false_of_ne_true hopen) (ih h)
  | case7 links place step hslash hopen hhere hup hsize next hnode =>
      obtain rfl := Except.ok.inj h
      refine .last (eq_false_of_ne_true hopen) (.of hslash hhere hup hsize) fun n hn => ?_
      cases hnode.symm.trans hn
  | case9 links place step rest hslash hopen hhere hup hsize next target hnode hlast =>
      obtain rfl := Except.ok.inj h
      obtain ⟨rfl, rfl⟩ := hlast
      refine .last (eq_false_of_ne_true hopen) (.of hslash hhere hup hsize) fun n hn => ?_
      obtain rfl := Option.some.inj (hnode.symm.trans hn)
      exact ⟨rfl, fun hfollow => absurd hfollow Bool.false_ne_true⟩
  | case11 place step rest hslash hopen hhere hup hsize next target hnode hfollow links ih =>
      refine .link (eq_false_of_ne_true hopen) (.of hslash hhere hup hsize) hnode (fun hrest => ?_) (ih h)
      exact eq_true_of_ne_false fun hfalse => hfollow ⟨hrest, hfalse⟩
  | case12 links place step rest hslash hopen hhere hup hsize next node hlink hnode hdir ih =>
      exact .enter (eq_false_of_ne_true hopen) (.of hslash hhere hup hsize) hnode hdir (ih h)
  | case13 links place step hslash hopen hhere hup hsize next node hlink hnode hdir =>
      obtain rfl := Except.ok.inj h
      refine .last (eq_false_of_ne_true hopen) (.of hslash hhere hup hsize) fun n hn => ?_
      obtain rfl := Option.some.inj (hnode.symm.trans hn)
      exact ⟨eq_false_of_ne_true hdir, fun _ => hlink⟩
  | _ => cases h

/-- What becomes of a step that is a name. -/
lemma walkFrom_name (hopen : fs.isClosed place = false) (hname : Path.IsName step) :
    fs.walkFrom follow links place (step :: rest) =
      match fs.node? (place ++ [step]) with
      | none => if rest = [] then .ok (place ++ [step]) else .error .missing
      | some (.link target) =>
        if rest = [] ∧ follow = false then .ok (place ++ [step])
        else
          match links with
          | 0 => .error .tooManyLinks
          | links + 1 =>
            fs.walkFrom follow links (if target.isAbsolute then [] else place) (target.steps ++ rest)
      | some node =>
        if node.isDirectory then fs.walkFrom follow links (place ++ [step]) rest
        else if rest = [] then .ok (place ++ [step])
        else .error .notDirectory := by
  have hslash : ¬ step = Path.slash := by
    rintro rfl
    exact absurd hname.isDot (by decide)
  have hhere : ¬ step = Path.here := by
    rintro rfl
    exact absurd hname.isDot (by decide)
  rw [walkFrom, if_neg hslash, hopen, if_neg Bool.false_ne_true, if_neg hhere, if_neg hname.ne_up]
  exact if_neg (not_lt.mpr hname.size)

lemma Walks.walkFrom (h : Walks fs follow links place steps q) :
    fs.walkFrom follow links place steps = .ok q := by
  induction h with
  | nil => rw [FileSystem.walkFrom]
  | @stay links place q step rest hdot hopen hrest ih =>
      rw [FileSystem.walkFrom]
      by_cases hslash : step = Path.slash
      · rw [if_pos hslash, ih]
      · have hhere : step = Path.here := by simpa [Path.isDot, hslash] using hdot
        rw [if_neg hslash, hopen hslash, if_neg Bool.false_ne_true, if_pos hhere, ih]
  | up hopen hrest ih =>
      rw [FileSystem.walkFrom, if_neg (by decide), hopen, if_neg Bool.false_ne_true, if_neg (by decide),
        if_pos rfl, ih]
  | @enter links place q step rest n hopen hname hnode hn hrest ih =>
      rw [walkFrom_name hopen hname, hnode]
      cases n with
      | link target => cases hn
      | _ => simp only [hn, if_true, ih]
  | @link links place q step rest target hopen hname hnode hfollow hrest ih =>
      have hgoes : ¬(rest = [] ∧ follow = false) := by
        rintro ⟨hnil, hfalse⟩
        rw [hfollow hnil] at hfalse
        cases hfalse
      rw [walkFrom_name hopen hname, hnode]
      simp only [if_neg hgoes, ih]
  | @last links place step hopen hname hlast =>
      rw [walkFrom_name hopen hname]
      cases hnode : fs.node? (place ++ [step]) with
      | none => rfl
      | some n =>
          obtain ⟨hdir, hlink⟩ := hlast n hnode
          cases n with
          | link target =>
              have hfalse : follow = false := eq_false_of_ne_true fun hfollow => hlink hfollow target rfl
              simp [hfalse]
          | _ => simp [hdir]

/-- Steps lead where one gets when one takes them. -/
theorem walkFrom_eq_ok_iff :
    fs.walkFrom follow links place steps = .ok q ↔ Walks fs follow links place steps q :=
  ⟨walks_of_walkFrom, Walks.walkFrom⟩

/-- Steps lead to one place. -/
lemma Walks.unique {q' : Place} (h : Walks fs follow links place steps q)
    (h' : Walks fs follow links place steps q') : q = q' :=
  Except.ok.inj (h.walkFrom.symm.trans h'.walkFrom)

/-! ### Directories -/

/-- There is a directory at the place. -/
def DirectoryAt (fs : FileSystem α) (p : Place) : Prop := ∃ n, fs.node? p = some n ∧ n.isDirectory = true

/-- Whatever stands somewhere has a name and stands in a directory, and one is in a directory. -/
structure IsTree (fs : FileSystem α) : Prop where
  root : fs.DirectoryAt []
  current : fs.DirectoryAt fs.current
  above : ∀ {p : Place} {name : String} {n : FileNode α}, fs.node? (p ++ [name]) = some n → fs.DirectoryAt p
  isName : ∀ {p : Place} {name : String} {n : FileNode α}, fs.node? (p ++ [name]) = some n → Path.IsName name

lemma IsTree.start (hfs : fs.IsTree) (p : Path) : fs.DirectoryAt (fs.start p) := by
  rw [FileSystem.start]
  split
  · exact hfs.root
  · exact hfs.current

/-- What a link says starts in a directory. -/
lemma IsTree.target (hfs : fs.IsTree) {p : Place} (hp : fs.DirectoryAt p) {target : Path} :
    fs.DirectoryAt (if target.isAbsolute then [] else p) := by
  split
  · exact hfs.root
  · exact hp

lemma IsTree.dropLast (hfs : fs.IsTree) {p : Place} (hp : fs.DirectoryAt p) : fs.DirectoryAt p.dropLast := by
  cases p using List.reverseRecOn with
  | nil => exact hp
  | append_singleton p name =>
      obtain ⟨n, hn, -⟩ := hp
      rw [List.dropLast_concat]
      exact hfs.above hn

/-- Nothing stands below a place where nothing stands. -/
lemma IsTree.missing (hfs : fs.IsTree) {p : Place} (hp : fs.node? p = none) (name : String) :
    fs.node? (p ++ [name]) = none := by
  cases hnode : fs.node? (p ++ [name]) with
  | none => rfl
  | some n =>
      obtain ⟨m, hm, -⟩ := hfs.above hnode
      cases hp.symm.trans hm

/-! ### Taking steps one after the other -/

/-- Steps that lead to a directory can be followed by others. -/
lemma Walks.append {front : List String} (h : Walks fs true links place front d) (hd : fs.DirectoryAt d) :
    ∃ links', ∀ {follow back q}, back ≠ [] → Walks fs follow links' d back q →
      Walks fs follow links place (front ++ back) q := by
  induction h with
  | @nil links place => exact ⟨links, fun _ hback => hback⟩
  | stay hdot hopen hrest ih =>
      obtain ⟨links', ih⟩ := ih hd
      exact ⟨links', fun hne hback => .stay hdot hopen (ih hne hback)⟩
  | up hopen hrest ih =>
      obtain ⟨links', ih⟩ := ih hd
      exact ⟨links', fun hne hback => .up hopen (ih hne hback)⟩
  | enter hopen hname hnode hn hrest ih =>
      obtain ⟨links', ih⟩ := ih hd
      exact ⟨links', fun hne hback => .enter hopen hname hnode hn (ih hne hback)⟩
  | @link links place q step rest target hopen hname hnode hfollow hrest ih =>
      obtain ⟨links', ih⟩ := ih hd
      refine ⟨links', fun {follow back q} hne hback => .link hopen hname hnode (fun hnil => ?_) ?_⟩
      · exact absurd (List.append_eq_nil_iff.mp hnil).2 hne
      · have hall := ih hne hback
        rwa [List.append_assoc] at hall
  | @last links place step hopen hname hlast =>
      obtain ⟨n, hn, hdir⟩ := hd
      rw [(hlast n hn).1] at hdir
      cases hdir

/-- Where more steps are taken, those in front lead to a directory. -/
lemma Walks.split (hfs : fs.IsTree) {links : ℕ} {place : Place} {front back : List String}
    (h : Walks fs follow links place (front ++ back) q) (hplace : fs.DirectoryAt place) (hback : back ≠ []) :
    ∃ d links', fs.DirectoryAt d ∧ Walks fs true links place front d ∧ Walks fs follow links' d back q := by
  -- A link puts its own steps in front, but then there is one link less to follow.
  match front with
  | [] => exact ⟨place, links, hplace, .nil, h⟩
  | step :: front =>
      rw [List.cons_append] at h
      generalize hrest : front ++ back = rest at h
      cases h with
      | stay hdot hopen h =>
          subst hrest
          obtain ⟨d, links', hd, hfront, hb⟩ := h.split hfs hplace hback
          exact ⟨d, links', hd, .stay hdot hopen hfront, hb⟩
      | up hopen h =>
          subst hrest
          obtain ⟨d, links', hd, hfront, hb⟩ := h.split hfs (hfs.dropLast hplace) hback
          exact ⟨d, links', hd, .up hopen hfront, hb⟩
      | enter hopen hname hnode hn h =>
          subst hrest
          obtain ⟨d, links', hd, hfront, hb⟩ := h.split hfs ⟨_, hnode, hn⟩ hback
          exact ⟨d, links', hd, .enter hopen hname hnode hn hfront, hb⟩
      | link hopen hname hnode hfollow h =>
          subst hrest
          rw [← List.append_assoc] at h
          obtain ⟨d, links', hd, hfront, hb⟩ := h.split hfs (hfs.target hplace) hback
          exact ⟨d, links', hd, .link hopen hname hnode (fun _ => rfl) hfront, hb⟩
      | last => exact absurd (List.append_eq_nil_iff.mp hrest).2 hback
termination_by (links, front.length)

/-! ### Steps that stay where they are -/

/-- Steps that stay where they are lead nowhere else. -/
lemma Walks.eq_of_dots {dots : List String} (h : Walks fs follow links place dots q)
    (hdots : ∀ s ∈ dots, Path.isDot s = true) : q = place := by
  induction dots with
  | nil =>
      cases h
      rfl
  | cons step dots ih =>
      obtain ⟨hdot, hdots⟩ := List.forall_mem_cons.mp hdots
      cases h with
      | stay _ _ hrest => exact ih hrest hdots
      | up => cases hdot
      | enter _ hname => cases hname.isDot.symm.trans hdot
      | link _ hname => cases hname.isDot.symm.trans hdot
      | last _ hname => cases hname.isDot.symm.trans hdot

/-- Steps that stay where they are can be left out. -/
lemma Walks.undots (h : Walks fs true links place long q) (hundots : Path.Undots long short) :
    Walks fs true links place short q := by
  induction h generalizing short with
  | nil =>
      obtain rfl := hundots.eq_nil
      exact .nil
  | stay hdot hopen hrest ih =>
      cases hundots with
      | keep _ h => exact .stay hdot hopen (ih h)
      | drop _ h => exact ih h
  | up hopen hrest ih =>
      cases hundots with
      | keep _ h => exact .up hopen (ih h)
      | drop hdot h => cases hdot
  | enter hopen hname hnode hn hrest ih =>
      cases hundots with
      | keep _ h => exact .enter hopen hname hnode hn (ih h)
      | drop hdot h => cases hname.isDot.symm.trans hdot
  | link hopen hname hnode hfollow hrest ih =>
      cases hundots with
      | keep _ h => exact .link hopen hname hnode (fun _ => rfl) (ih (h.append _))
      | drop hdot h => cases hname.isDot.symm.trans hdot
  | last hopen hname hlast =>
      cases hundots with
      | keep _ h =>
          obtain rfl := h.eq_nil
          exact .last hopen hname hlast
      | drop hdot h => cases hname.isDot.symm.trans hdot

/-- One can stay where one is, if one may search there. -/
lemma Walks.stays (hopen : fs.isClosed place = false) {dots : List String}
    (hdots : ∀ s ∈ dots, Path.isDot s = true) (h : Walks fs follow links place rest q) :
    Walks fs follow links place (dots ++ rest) q := by
  induction dots with
  | nil => exact h
  | cons s dots ih =>
      exact .stay (hdots s List.mem_cons_self) (fun _ => hopen)
        (ih fun s' hs' => hdots s' (List.mem_cons_of_mem s hs'))

/-- Where steps lead somewhere that may be searched, one may search where they begin. -/
lemma Walks.isOpen (h : Walks fs follow links place steps q) (hq : fs.isClosed q = false) :
    fs.isClosed place = false := by
  induction h with
  | nil => exact hq
  | stay hdot hopen hrest ih => exact ih hq
  | up hopen _ _ => exact hopen
  | enter hopen _ _ _ _ _ => exact hopen
  | link hopen _ _ _ _ _ => exact hopen
  | last hopen _ _ => exact hopen

/-- Steps that stay where they are can be put in on the way to a directory that may be searched. -/
lemma Walks.dotted (h : Walks fs true links place short d) (hundots : Path.Undots long short)
    (hd : fs.DirectoryAt d) (hopen : fs.isClosed d = false) : Walks fs true links place long d := by
  induction h generalizing long with
  | nil =>
      rw [← List.append_nil long]
      exact .stays hopen hundots.forall_of_nil .nil
  | stay hdot hstay hrest ih =>
      obtain ⟨dots, rest', rfl, hdots, h⟩ := hundots.exists_of_cons
      exact .stays (hrest.isOpen hopen) hdots (.stay hdot hstay (ih h hd hopen))
  | up hstep hrest ih =>
      obtain ⟨dots, rest', rfl, hdots, h⟩ := hundots.exists_of_cons
      exact .stays hstep hdots (.up hstep (ih h hd hopen))
  | enter hstep hname hnode hn hrest ih =>
      obtain ⟨dots, rest', rfl, hdots, h⟩ := hundots.exists_of_cons
      exact .stays hstep hdots (.enter hstep hname hnode hn (ih h hd hopen))
  | link hstep hname hnode hfollow hrest ih =>
      obtain ⟨dots, rest', rfl, hdots, h⟩ := hundots.exists_of_cons
      exact .stays hstep hdots (.link hstep hname hnode (fun _ => rfl) (ih (h.append _) hd hopen))
  | last hstep hname hlast =>
      obtain ⟨n, hn, hdir⟩ := hd
      rw [(hlast n hn).1] at hdir
      cases hdir

/-! ### Following the last link, or not -/

/-- Where there is no link at the end, it makes no difference whether it would be followed. -/
lemma Walks.followed (h : Walks fs false links place steps q)
    (hq : ∀ target, fs.node? q ≠ some (.link target)) : Walks fs true links place steps q := by
  induction h with
  | nil => exact .nil
  | stay hdot hopen hrest ih => exact .stay hdot hopen (ih hq)
  | up hopen hrest ih => exact .up hopen (ih hq)
  | enter hopen hname hnode hn hrest ih => exact .enter hopen hname hnode hn (ih hq)
  | link hopen hname hnode hfollow hrest ih => exact .link hopen hname hnode (fun _ => rfl) (ih hq)
  | last hopen hname hlast =>
      refine .last hopen hname fun n hn => ⟨(hlast n hn).1, fun _ target hlink => ?_⟩
      exact hq target (hlink ▸ hn)

/-- Where steps lead to something, there is something as well if the last link is not followed. -/
lemma Walks.unfollowed (h : Walks fs true links place steps q) {n : FileNode α}
    (hq : fs.node? q = some n) : ∃ q' n', Walks fs false links place steps q' ∧ fs.node? q' = some n' := by
  induction h with
  | nil => exact ⟨_, _, .nil, hq⟩
  | stay hdot hopen hrest ih =>
      obtain ⟨q', n', h, hn'⟩ := ih hq
      exact ⟨q', n', .stay hdot hopen h, hn'⟩
  | up hopen hrest ih =>
      obtain ⟨q', n', h, hn'⟩ := ih hq
      exact ⟨q', n', .up hopen h, hn'⟩
  | enter hopen hname hnode hn hrest ih =>
      obtain ⟨q', n', h, hn'⟩ := ih hq
      exact ⟨q', n', .enter hopen hname hnode hn h, hn'⟩
  | @link links place q step rest target hopen hname hnode hfollow hrest ih =>
      rcases eq_or_ne rest [] with rfl | hne
      · refine ⟨_, _, .last hopen hname fun n hn => ?_, hnode⟩
        obtain rfl := Option.some.inj (hnode.symm.trans hn)
        exact ⟨rfl, fun hfollow => absurd hfollow Bool.false_ne_true⟩
      · obtain ⟨q', n', h, hn'⟩ := ih hq
        exact ⟨q', n', .link hopen hname hnode (fun hnil => absurd hnil hne) h, hn'⟩
  | last hopen hname hlast =>
      exact ⟨_, _, .last hopen hname fun n hn => ⟨(hlast n hn).1,
        fun hfollow => absurd hfollow Bool.false_ne_true⟩, hq⟩

/-! ### More directories -/

/-- Directories may have been made, and nothing else has changed. -/
structure Grows (fs fs' : FileSystem α) : Prop where
  current : fs'.current = fs.current
  node : ∀ p, fs'.node? p = fs.node? p ∨ fs.node? p = none ∧ fs'.node? p = some .directory

lemma Grows.kept (h : Grows fs fs') {p : Place} (hn : fs.node? p = some n) : fs'.node? p = some n := by
  rcases h.node p with hsame | ⟨hnone, -⟩
  · rw [hsame, hn]
  · cases hnone.symm.trans hn

lemma Grows.start (h : Grows fs fs') (p : Path) : fs'.start p = fs.start p := by
  rw [FileSystem.start, FileSystem.start, h.current]

lemma Grows.isClosed (h : Grows fs fs') (p : Place) : fs'.isClosed p = fs.isClosed p := by
  rw [FileSystem.isClosed, FileSystem.isClosed]
  rcases h.node p with hsame | ⟨hnone, hmade⟩
  · rw [hsame]
  · rw [hnone, hmade]

/-- Steps lead to where they led. -/
lemma Walks.grows (h : Walks fs follow links place steps q) (hgrows : Grows fs fs') :
    Walks fs' follow links place steps q := by
  induction h with
  | nil => exact .nil
  | stay hdot hopen hrest ih => exact .stay hdot (fun hne => hgrows.isClosed _ ▸ hopen hne) ih
  | up hopen hrest ih => exact .up (hgrows.isClosed _ ▸ hopen) ih
  | enter hopen hname hnode hn hrest ih =>
      exact .enter (hgrows.isClosed _ ▸ hopen) hname (hgrows.kept hnode) hn ih
  | link hopen hname hnode hfollow hrest ih =>
      exact .link (hgrows.isClosed _ ▸ hopen) hname (hgrows.kept hnode) hfollow ih
  | @last links place step hopen hname hlast =>
      rcases hgrows.node (place ++ [step]) with hsame | ⟨-, hmade⟩
      · exact .last (hgrows.isClosed _ ▸ hopen) hname fun n hn => hlast n (hsame ▸ hn)
      · exact .enter (hgrows.isClosed _ ▸ hopen) hname hmade rfl .nil

end FileSystem

end ChainElection
