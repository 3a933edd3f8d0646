import Mathlib.Tactic
import ChainElection.Index.Location
import ChainElection.Proofs.Files.Entry

/-!
Where an index is kept, and what has become of the files when that is known.

* `StoreLocation.Prepared` lists how a path comes to be accepted: a regular file
  is found under its last name, or nothing is found, and then directories may be
  made. `prepared_of_prepare` says that there is no other way.
* `resolving_only_makes_missing_directories`: nothing else is done to files, and
  nothing at all if one asks again.
* `accepted_file_is_missing_or_regular` says how far one can rely on what stands
  under the last name of an accepted path. A link is accepted behind which there
  is a slash: `link_is_accepted_behind_slash`.
-/

namespace ChainElection

open FileSystem

/-- The fault lies in the text, or in what stands where it leads. -/
def LocationFault.IsRefusal : LocationFault → Prop
  | .noDirectory _ => False
  | _ => True

namespace StoreLocation

variable {α : Type} {fs fs' : FileSystem α} {p : Path} {d : Place} {s text name : String}
  {r : Except LocationFault StoreLocation}

/-- The text names a file, whatever stands there. -/
structure NamesFile (s : String) : Prop where
  ne_empty : s ≠ ""
  isControl : ∀ c ∈ s.toList, isControl c = false
  notMem_up : Path.up ∉ (Path.read s).steps
  fileName : ∃ name, (Path.read s).fileName? = some name

lemma ofText_eq_file (h : ofText text = .ok (.file s)) : text = s ∧ NamesFile s := by
  rw [ofText] at h
  split_ifs at h with hmemory hempty hcontrol hclimbs hname
  · cases h
  · obtain rfl : text = s := StoreLocation.file.inj (Except.ok.inj h)
    refine ⟨rfl, hempty, ?_, ?_, ?_⟩
    · simpa using hcontrol
    · simpa [Path.climbs] using hclimbs
    · exact Option.ne_none_iff_exists'.mp (by simpa using hname)

/-- There is one way to resolve to a file. -/
lemma resolve_eq_file (h : resolve fs text = (.ok (.file s), fs')) :
    ofText (Text.trimmed text) = .ok (.file s) ∧ prepare fs s = (.ok (), fs') := by
  rw [resolve] at h
  split at h
  · cases h
  · cases h
  · rename_i s' htext
    split at h
    · cases h
    · rename_i fs₁ hprepare
      cases h
      exact ⟨htext, hprepare⟩

lemma makeWay_eq_ok_iff : makeWay fs s = (.ok (), fs') ↔
    (Path.startsHere s = true → fs.isDirectory (Path.read Path.here) = true) ∧
      fs.makeDirectories (Path.read s).isAbsolute (Path.sizedNames s).dropLast.reverse = (.ok (), fs') := by
  rw [makeWay]
  cases Path.startsHere s <;> cases fs.isDirectory (Path.read Path.here) <;> simp

/-- A path is accepted if a regular file is found at its end, or if nothing is found and the directories on
the way can be made. -/
lemma prepare_eq_ok (h : prepare fs s = (.ok (), fs')) :
    (∃ c, fs.inspect false (Path.read s) = .ok (.regular c)) ∧ fs' = fs ∨
      (∃ f, fs.inspect false (Path.read s) = .error f) ∧ makeWay fs s = (.ok (), fs') := by
  rw [prepare] at h
  split at h
  · cases h
  · rename_i c hinspect
    cases h
    exact .inl ⟨⟨c, hinspect⟩, rfl⟩
  · cases h
  · rename_i f hinspect
    split at h
    · rename_i fs₁ hmake
      cases h
      exact .inr ⟨⟨f, hinspect⟩, hmake⟩
    · cases h

lemma prepare_of_error {f : FileFault} (hinspect : fs.inspect false (Path.read s) = .error f)
    (hmake : makeWay fs s = (.ok (), fs')) : prepare fs s = (.ok (), fs') := by
  simp only [prepare, hinspect, hmake]

lemma eq_of_isRefusal {f : LocationFault} (hf : f.IsRefusal) (h : prepare fs s = (.error f, fs')) :
    fs' = fs := by
  rw [prepare] at h
  split at h
  · cases h
    rfl
  · cases h
  · cases h
    rfl
  · split at h
    · cases h
    · cases h
      exact hf.elim

/-- How a path has come to be accepted: its last name stands for a regular file, or it was not found, and
directories were made if some were missing. -/
inductive Prepared (fs : FileSystem α) (p : Path) (d : Place) (name : String) : FileSystem α → Prop where
  | found {c : α} (hentry : fs.Entry p d name) (hinspect : fs.inspect false p = .ok (.regular c))
      (hnode : fs.node? (d ++ [name]) = some (.regular c)) : Prepared fs p d name fs
  | kept {f : FileFault} (hentry : fs.Entry p d name) (hinspect : fs.inspect false p = .error f) :
      Prepared fs p d name fs
  | made {f : FileFault} {fs' : FileSystem α} {size : ℕ} (hentry : fs'.Entry p d name)
      (hinspect : fs.inspect false p = .error f)
      (hmade : Made fs fs' ⟨p.isAbsolute, p.names.dropLast, size⟩ d) : Prepared fs p d name fs'

/-- The directories that may have to be made have names. -/
lemma NamesFile.names (hs : NamesFile s) :
    ∀ dir ∈ (Path.sizedNames s).dropLast.reverse, Path.isDot dir.1 = false ∧ dir.1 ≠ Path.up := by
  intro dir hdir
  have hmem : dir.1 ∈ (Path.read s).names := by
    rw [← Path.map_fst_sizedNames]
    exact List.mem_map_of_mem (List.mem_of_mem_dropLast (List.mem_reverse.mp hdir))
  obtain ⟨hstep, hdot⟩ := List.mem_filter.mp hmem
  exact ⟨by simpa using hdot, fun hup => hs.notMem_up (hup ▸ hstep)⟩

lemma isTree_of_prepare (hfs : fs.IsTree) (h : prepare fs s = (.ok (), fs')) : fs'.IsTree := by
  obtain ⟨-, rfl⟩ | ⟨-, hmake⟩ := prepare_eq_ok h
  · exact hfs
  · exact hfs.makeDirectories (makeWay_eq_ok_iff.mp hmake).2

/-- A regular file is not found behind a slash or a dot, so it stands under the last name. -/
lemma prepared_of_regular {c : α} (hfs : fs.IsTree) (hname : p.fileName? = some name)
    (hinspect : fs.inspect false p = .ok (.regular c)) : ∃ d, Prepared fs p d name fs := by
  obtain ⟨q, hwalk, hnode⟩ := inspect_eq_ok_iff.mp hinspect
  obtain ⟨d, hentry, front, dots, links, hends, hback⟩ := exists_entry_of_walk hfs hname hwalk
  have hfile : ¬ fs.DirectoryAt q := by
    rintro ⟨n, hn, hdir⟩
    cases hnode.symm.trans hn
    cases hdir
  obtain ⟨-, rfl⟩ := hback.ends_with_name hfs hentry.directory hends hfile
  exact ⟨d, .found hentry hinspect hnode⟩

/-- The directories that are made lead to the one in which the path has its last name. -/
lemma prepared_of_makeDirectories {f : FileFault} (hfs : fs.IsTree) (hs : NamesFile s)
    (hname : (Path.read s).fileName? = some name) (hinspect : fs.inspect false (Path.read s) = .error f)
    (hmake : fs.makeDirectories (Path.read s).isAbsolute (Path.sizedNames s).dropLast.reverse =
      (.ok (), fs')) : ∃ d, Prepared fs (Path.read s) d name fs' := by
  have hnames : (Path.sizedNames s).dropLast.map Prod.fst = (Path.read s).names.dropLast := by
    rw [List.map_dropLast, Path.map_fst_sizedNames]
  have hdirs := hs.names
  cases hreverse : (Path.sizedNames s).dropLast.reverse with
  | nil =>
      rw [hreverse] at hmake
      obtain rfl : fs = fs' := congrArg Prod.snd hmake
      rw [List.reverse_eq_nil_iff.mp hreverse] at hnames
      refine ⟨fs.start (Path.read s), .kept ⟨?_, hfs.start _, hname⟩ hinspect⟩
      rw [← hnames]
      exact .nil
  | cons dir above =>
      rw [hreverse] at hmake hdirs
      obtain ⟨name', size⟩ := dir
      obtain ⟨d, hwalk, hd, hmade⟩ := reached_makeDirectories hfs rfl hdirs hmake
      have hsteps : (above.map Prod.fst).reverse ++ [name'] = (Path.read s).names.dropLast := by
        rw [← hnames, ← List.reverse_reverse (Path.sizedNames s).dropLast, hreverse]
        simp
      rw [hsteps] at hwalk hmade
      have hentry : fs'.Entry (Path.read s) d name := ⟨(walk_eq_ok_iff.mp hwalk).2.2, hd, hname⟩
      obtain rfl | hmade := hmade
      · exact ⟨d, .kept hentry hinspect⟩
      · exact ⟨d, .made hentry hinspect hmade⟩

lemma prepared_of_prepare (hfs : fs.IsTree) (hs : NamesFile s) (hname : (Path.read s).fileName? = some name)
    (h : prepare fs s = (.ok (), fs')) : ∃ d, Prepared fs (Path.read s) d name fs' := by
  obtain ⟨⟨c, hinspect⟩, rfl⟩ | ⟨⟨f, hinspect⟩, hmake⟩ := prepare_eq_ok h
  · exact prepared_of_regular hfs hname hinspect
  · exact prepared_of_makeDirectories hfs hs hname hinspect (makeWay_eq_ok_iff.mp hmake).2

/-! ### Files afterwards -/

lemma Prepared.entry (h : Prepared fs p d name fs') : fs'.Entry p d name := by
  cases h with
  | found hentry => exact hentry
  | kept hentry => exact hentry
  | made hentry => exact hentry

/-- The place of a directory on the way to what a path names. -/
def OnTheWay (fs : FileSystem α) (p : Path) (q : Place) : Prop :=
  ∃ k, 0 < k ∧ k < p.names.length ∧ Walks fs true maxLinks (fs.start p) (p.names.take k) q

/-- Nothing has changed but that directories on the way were made where nothing stood. -/
structure OnlyMakesDirectories (fs fs' : FileSystem α) (p : Path) : Prop where
  current : fs'.current = fs.current
  node : ∀ q, fs'.node? q = fs.node? q ∨
    fs.node? q = none ∧ fs'.node? q = some .directory ∧ OnTheWay fs' p q

lemma onlyMakesDirectories_refl (fs : FileSystem α) (p : Path) : OnlyMakesDirectories fs fs p :=
  ⟨rfl, fun _ => .inl rfl⟩

lemma Prepared.onlyMakesDirectories (h : Prepared fs p d name fs') : OnlyMakesDirectories fs fs' p := by
  cases h with
  | found => exact onlyMakesDirectories_refl fs p
  | kept => exact onlyMakesDirectories_refl fs p
  | made hentry hinspect hmade =>
      obtain ⟨front, dots, hends⟩ := Path.exists_endsWith hentry.fileName
      refine ⟨hmade.current, fun q => (hmade.only q).imp_right ?_⟩
      rintro ⟨hnone, hdir, -, k, hpos, hk, hwalks⟩
      refine ⟨hnone, hdir, k, hpos, ?_, ?_⟩
      · rw [hends.names, List.length_append, List.length_singleton]
        exact Nat.lt_succ_of_le hk
      · rw [hends.names, List.take_append_of_le_length hk]
        exact hwalks

/-- What stands under the last name of the path is what stood there. -/
lemma Prepared.node?_eq (hfs : fs.IsTree) (h : Prepared fs p d name fs') :
    fs'.node? (d ++ [name]) = fs.node? (d ++ [name]) := by
  cases h with
  | found => rfl
  | kept => rfl
  | made hentry hinspect hmade => rw [hmade.missing hfs, hfs.missing hmade.fresh]

/-- If directories were made, there is still nothing at the end of the path. -/
lemma exists_inspect_eq_error {size : ℕ} (hfs : fs.IsTree) (hfs' : fs'.IsTree) (hentry : fs'.Entry p d name)
    (hmade : Made fs fs' ⟨p.isAbsolute, p.names.dropLast, size⟩ d) :
    ∃ f, fs'.inspect false p = .error f := by
  cases hinspect : fs'.inspect false p with
  | error f => exact ⟨f, rfl⟩
  | ok n =>
      obtain ⟨q, hwalk, hnode⟩ := inspect_eq_ok_iff.mp hinspect
      obtain ⟨d', hentry', front, dots, links, hends, hback⟩ :=
        exists_entry_of_walk hfs' hentry.fileName hwalk
      obtain rfl := hentry.walks.unique hentry'.walks
      have hmissing := hmade.missing hfs name
      obtain rfl := hback.eq_of_missing hends.isDot hends.ne_up hmissing
      cases hmissing.symm.trans hnode

/-- A path that was accepted is accepted again, and nothing changes. -/
lemma prepare_again (hfs : fs.IsTree) (hs : NamesFile s) (h : prepare fs s = (.ok (), fs')) :
    prepare fs' s = (.ok (), fs') := by
  obtain ⟨name, hname⟩ := hs.fileName
  obtain ⟨d, hprepared⟩ := prepared_of_prepare hfs hs hname h
  cases hprepared with
  | found => exact h
  | kept => exact h
  | made hentry hinspect hmade =>
      obtain ⟨⟨c, hfound⟩, -⟩ | ⟨-, hmake⟩ := prepare_eq_ok h
      · cases hinspect.symm.trans hfound
      · obtain ⟨f, herror⟩ := exists_inspect_eq_error hfs (isTree_of_prepare hfs h) hentry hmade
        obtain ⟨hhere, hmake⟩ := makeWay_eq_ok_iff.mp hmake
        exact prepare_of_error herror (makeWay_eq_ok_iff.mpr
          ⟨fun hstarts => hmade.grows.isDirectory (hhere hstarts), makeDirectories_again hfs hs.names hmake⟩)

lemma resolve_of_file (htext : ofText (Text.trimmed text) = .ok (.file s))
    (hprepare : prepare fs s = (.ok (), fs')) : resolve fs text = (.ok (.file s), fs') := by
  simp only [resolve, htext, hprepare]

/-- Where a text is refused or names the index in memory, nothing happens to the files. -/
lemma eq_of_resolve (h : resolve fs text = (r, fs')) (hr : ∀ s, r ≠ .ok (.file s))
    (hrefusal : ∀ f, r = .error f → f.IsRefusal) : fs' = fs := by
  rw [resolve] at h
  split at h
  · cases h
    rfl
  · cases h
    rfl
  · split at h
    · rename_i f fs₁ hprepare
      cases h
      exact eq_of_isRefusal (hrefusal f rfl) hprepare
    · cases h
      exact absurd rfl (hr _)

/-- Whatever the text is and whatever stands where: if it is refused for what it says or for what stands at
its end, or if it names the index in memory, the files are as before. If it names a file, directories were
made where something was missing on the way to it, and nothing else has changed; in particular, the file
itself is as it was, or is still missing. Unless making the directories failed, one gets the same answer if
one asks again, and nothing changes any more. -/
theorem resolving_only_makes_missing_directories {α : Type} {fs fs' : FileSystem α}
    {text : String} {r : Except LocationFault StoreLocation} (hfs : fs.IsTree)
    (h : resolve fs text = (r, fs')) :
    (∀ f, r = .error f → f.IsRefusal → fs' = fs) ∧
    (r = .ok .inMemory → fs' = fs) ∧
    (∀ s, r = .ok (.file s) → OnlyMakesDirectories fs fs' (Path.read s) ∧
      (∃ d name, fs'.Entry (Path.read s) d name) ∧
      ∀ d name, fs'.Entry (Path.read s) d name → fs'.node? (d ++ [name]) = fs.node? (d ++ [name])) ∧
    ((∀ f, r = .error f → f.IsRefusal) → resolve fs' text = (r, fs')) := by
  refine ⟨?_, ?_, ?_, ?_⟩
  · rintro f rfl hf
    refine eq_of_resolve h (fun s hs => by cases hs) fun f' hf' => ?_
    cases hf'
    exact hf
  · rintro rfl
    exact eq_of_resolve h (fun s hs => by cases hs) fun f hf => by cases hf
  · rintro s rfl
    obtain ⟨htext, hprepare⟩ := resolve_eq_file h
    obtain ⟨-, hs⟩ := ofText_eq_file htext
    obtain ⟨name, hname⟩ := hs.fileName
    obtain ⟨d, hprepared⟩ := prepared_of_prepare hfs hs hname hprepare
    refine ⟨hprepared.onlyMakesDirectories, ⟨d, name, hprepared.entry⟩, fun d' name' hentry => ?_⟩
    obtain rfl := hprepared.entry.walks.unique hentry.walks
    obtain rfl := Option.some.inj (hname.symm.trans hentry.fileName)
    exact hprepared.node?_eq hfs
  · intro hrefusal
    match r with
    | .ok (.file s) =>
        obtain ⟨htext, hprepare⟩ := resolve_eq_file h
        obtain ⟨-, hs⟩ := ofText_eq_file htext
        exact resolve_of_file htext (prepare_again hfs hs hprepare)
    | .ok .inMemory => exact eq_of_resolve h (fun s hs => by cases hs) hrefusal ▸ h
    | .error f => exact eq_of_resolve h (fun s hs => by cases hs) hrefusal ▸ h

/-- The index is to be kept behind a link to a directory, in another one that is missing there. -/
theorem resolving_only_makes_missing_directories_of_link_on_the_way :
    let fs : FileSystem Unit :=
      ((⟨Table.empty, []⟩ : FileSystem Unit).put ["var"] .directory).put ["data"] (.link (Path.read "var"))
    let fs' := fs.put ["var", "sub"] .directory
    fs.IsTree ∧ resolve fs " data/sub/index.db\n" = (.ok (.file "data/sub/index.db"), fs') ∧
      OnlyMakesDirectories fs fs' (Path.read "data/sub/index.db") ∧
      fs.node? ["var", "sub"] = none ∧ fs'.node? ["var", "sub"] = some .directory ∧
      fs'.node? ["var", "sub", "index.db"] = fs.node? ["var", "sub", "index.db"] ∧
      resolve fs' " data/sub/index.db\n" = (.ok (.file "data/sub/index.db"), fs') := by
  intro fs fs'
  have hvar : Path.IsName "var" := ⟨rfl, by decide, by decide⟩
  have hdata : Path.IsName "data" := ⟨rfl, by decide, by decide⟩
  have hsub : Path.IsName "sub" := ⟨rfl, by decide, by decide⟩
  have hfs : fs.IsTree :=
    (isTree_empty.put (d := []) ⟨_, rfl, rfl⟩ hvar rfl _).put (d := []) ⟨_, rfl, rfl⟩ hdata rfl _
  have hinspect : fs.inspect false (Path.read "data/sub/index.db") = .error .missing := by
    have hwalk : fs.walk false (Path.read "data/sub/index.db") = .error .missing := by
      change fs.walkFrom false 40 [] ["data", "sub", "index.db"] = _
      rw [walkFrom_name rfl hdata]
      change fs.walkFrom false 39 [] ["var", "sub", "index.db"] = _
      rw [walkFrom_name rfl hvar]
      change fs.walkFrom false 39 ["var"] ["sub", "index.db"] = _
      rw [walkFrom_name rfl hsub]
      rfl
    rw [inspect, hwalk]
  have hmake : fs.makeDirectories false [("sub", 8), ("data", 4)] = (.ok (), fs') := by
    have hsteps : Walks fs false maxLinks [] ["data", "sub"] ["var", "sub"] :=
      .link rfl hdata rfl (fun h => by cases h)
        (.enter rfl hvar rfl rfl (.last rfl hsub fun n hn => by cases hn))
    exact makeDirectories_of_makeDirectory rfl
      (makeDirectory_eq_ok_iff.mpr
        ⟨_, walk_eq_ok_iff.mpr ⟨by decide, by decide, hsteps⟩, rfl, rfl, rfl⟩)
  have hresolve : resolve fs " data/sub/index.db\n" = (.ok (.file "data/sub/index.db"), fs') :=
    resolve_of_file (by decide +kernel)
      (prepare_of_error hinspect (makeWay_eq_ok_iff.mpr ⟨fun hstarts => absurd hstarts (by decide), hmake⟩))
  have hentry : fs'.Entry (Path.read "data/sub/index.db") ["var", "sub"] "index.db" :=
    ⟨.link rfl hdata rfl (fun _ => rfl) (.enter rfl hvar rfl rfl (.enter rfl hsub rfl rfl .nil)),
      ⟨_, rfl, rfl⟩, rfl⟩
  obtain ⟨-, -, hfile, hagain⟩ := resolving_only_makes_missing_directories hfs hresolve
  obtain ⟨honly, -, hsame⟩ := hfile _ rfl
  exact ⟨hfs, hresolve, honly, rfl, rfl, hsame ["var", "sub"] "index.db" hentry,
    hagain fun f hf => by cases hf⟩

/-! ### What stands under the last name -/

/-- There is a regular file at the place, or nothing. -/
def MissingOrRegular (fs : FileSystem α) (q : Place) : Prop :=
  ∀ n, fs.node? q = some n → ∃ c, n = .regular c

lemma NamesFile.size_ne_zero (hs : NamesFile s) : (Path.read s).size ≠ 0 := by
  rw [Path.read]
  simpa using hs.ne_empty

/-- What is found at the end of an accepted path is a regular file, which stands under its last name. -/
lemma Prepared.eq_regular {n : FileNode α} (hfs : fs.IsTree) (hfs' : fs'.IsTree)
    (h : Prepared fs p d name fs') (hinspect' : fs'.inspect false p = .ok n) :
    ∃ c, n = .regular c ∧ fs'.node? (d ++ [name]) = some (.regular c) := by
  cases h with
  | found _ hinspect hnode => exact ⟨_, Except.ok.inj (hinspect'.symm.trans hinspect), hnode⟩
  | kept _ hinspect => cases hinspect.symm.trans hinspect'
  | made hentry _ hmade =>
      obtain ⟨f, herror⟩ := exists_inspect_eq_error hfs hfs' hentry hmade
      cases herror.symm.trans hinspect'

/-- Where a path ends with its last name, nothing but a regular file stands under it. -/
lemma Prepared.missingOrRegular (hfs : fs.IsTree) (hfs' : fs'.IsTree) (h : Prepared fs p d name fs')
    (hempty : p.size ≠ 0) (hlong : p.size ≤ Path.maxSize) (hends : p.steps.getLast? = some name)
    (hopen : fs'.isClosed d = false) : MissingOrRegular fs' (d ++ [name]) := by
  intro n hn
  have hfound := inspect_of_entry hfs' h.entry hempty hlong hopen hends hn
  obtain ⟨c, hc, -⟩ := h.eq_regular hfs hfs' hfound
  exact ⟨c, hc⟩

/-- However a path is spelled, its names do not lead to a directory that may be searched. -/
lemma Prepared.isClosed {q : Place} (hfs : fs.IsTree) (hfs' : fs'.IsTree) (h : Prepared fs p d name fs')
    (hempty : p.size ≠ 0) (hlong : p.size ≤ Path.maxSize)
    (hwalks : Walks fs' true maxLinks (fs'.start p) p.names q) (hq : fs'.DirectoryAt q) :
    fs'.isClosed q = true := by
  refine eq_true_of_ne_false fun hopen => ?_
  obtain ⟨n, hfound, hn⟩ := inspect_of_names hempty hlong hwalks hq hopen
  obtain ⟨c, hc, -⟩ := h.eq_regular hfs hfs' hfound
  exact hn c hc

/-- If a text is accepted as the path of a file, it neither goes up nor has a control character, and it has
its last name in a directory. What is found at its end is a regular file and stands under that name. So if
the path ends with the name, is not too long and leads through directories that may be searched, nothing
stands there or a regular file. With dots or a slash behind the name, all one knows is that the name does
not lead to a directory that may be searched: a link to something else is not noticed. -/
theorem accepted_file_is_missing_or_regular {α : Type} {fs fs' : FileSystem α} {text s : String}
    (hfs : fs.IsTree) (h : resolve fs text = (.ok (.file s), fs')) :
    Path.up ∉ (Path.read s).steps ∧ (∀ c ∈ s.toList, isControl c = false) ∧
    (∃ d name, fs'.Entry (Path.read s) d name) ∧
    ∀ d name, fs'.Entry (Path.read s) d name →
      (∀ n, fs'.inspect false (Path.read s) = .ok n →
        ∃ c, n = .regular c ∧ fs'.node? (d ++ [name]) = some (.regular c)) ∧
      ((Path.read s).size ≤ Path.maxSize →
        ((Path.read s).steps.getLast? = some name → fs'.isClosed d = false →
          MissingOrRegular fs' (d ++ [name])) ∧
        ∀ q, Walks fs' true maxLinks (fs'.start (Path.read s)) (Path.read s).names q →
          fs'.DirectoryAt q → fs'.isClosed q = true) := by
  obtain ⟨htext, hprepare⟩ := resolve_eq_file h
  obtain ⟨-, hs⟩ := ofText_eq_file htext
  obtain ⟨name, hname⟩ := hs.fileName
  obtain ⟨d, hprepared⟩ := prepared_of_prepare hfs hs hname hprepare
  have hfs' := isTree_of_prepare hfs hprepare
  refine ⟨hs.notMem_up, hs.isControl, ⟨d, name, hprepared.entry⟩, fun d' name' hentry => ?_⟩
  obtain rfl := hprepared.entry.walks.unique hentry.walks
  obtain rfl := Option.some.inj (hname.symm.trans hentry.fileName)
  refine ⟨fun n hn => hprepared.eq_regular hfs hfs' hn, fun hlong => ⟨fun hends hopen => ?_, ?_⟩⟩
  · exact hprepared.missingOrRegular hfs hfs' hs.size_ne_zero hlong hends hopen
  · exact fun q hwalks hq => hprepared.isClosed hfs hfs' hs.size_ne_zero hlong hwalks hq

/-- The index is there already, behind a link to a directory. -/
theorem accepted_file_is_missing_or_regular_of_link_on_the_way :
    let fs : FileSystem Unit :=
      (((⟨Table.empty, []⟩ : FileSystem Unit).put ["var"] .directory).put ["data"]
        (.link (Path.read "var"))).put ["var", "index.db"] (.regular ())
    fs.IsTree ∧ resolve fs "data/./index.db" = (.ok (.file "data/./index.db"), fs) ∧
      fs.Entry (Path.read "data/./index.db") ["var"] "index.db" ∧
      (Path.read "data/./index.db").size ≤ Path.maxSize ∧
      (Path.read "data/./index.db").steps.getLast? = some "index.db" ∧
      fs.isClosed ["var"] = false ∧ MissingOrRegular fs ["var", "index.db"] := by
  intro fs
  have hvar : Path.IsName "var" := ⟨rfl, by decide, by decide⟩
  have hdata : Path.IsName "data" := ⟨rfl, by decide, by decide⟩
  have hindex : Path.IsName "index.db" := ⟨rfl, by decide, by decide⟩
  have hfs : fs.IsTree :=
    ((isTree_empty.put (d := []) ⟨_, rfl, rfl⟩ hvar rfl _).put (d := []) ⟨_, rfl, rfl⟩ hdata rfl _).put
      (d := ["var"]) ⟨_, rfl, rfl⟩ hindex rfl _
  have hsteps : Walks fs false maxLinks [] ["data", ".", "index.db"] ["var", "index.db"] := by
    refine .link rfl hdata rfl (fun h => by cases h) (.enter rfl hvar rfl rfl (.stay rfl (fun _ => rfl) ?_))
    exact Walks.of_node hfs rfl rfl
  have hinspect : fs.inspect false (Path.read "data/./index.db") = .ok (.regular ()) :=
    inspect_eq_ok_iff.mpr ⟨_, walk_eq_ok_iff.mpr ⟨by decide, by decide, hsteps⟩, rfl⟩
  have hprepare : prepare fs "data/./index.db" = (.ok (), fs) := by
    simp only [prepare, hinspect]
  have hresolve : resolve fs "data/./index.db" = (.ok (.file "data/./index.db"), fs) :=
    resolve_of_file (by decide +kernel) hprepare
  have hentry : fs.Entry (Path.read "data/./index.db") ["var"] "index.db" :=
    ⟨.link rfl hdata rfl (fun _ => rfl) (.enter rfl hvar rfl rfl .nil), ⟨_, rfl, rfl⟩, rfl⟩
  obtain ⟨-, -, -, hentries⟩ := accepted_file_is_missing_or_regular hfs hresolve
  obtain ⟨-, hknown⟩ := hentries ["var"] "index.db" hentry
  obtain ⟨hplain, -⟩ := hknown (by decide)
  exact ⟨hfs, hresolve, hentry, by decide, by decide, rfl, hplain (by decide) rfl⟩

/-- A link to a file is accepted if there is a slash behind it. -/
theorem link_is_accepted_behind_slash :
    let fs : FileSystem Unit := ((⟨Table.empty, []⟩ : FileSystem Unit).put ["real.db"] (.regular ())).put
      ["index.db"] (.link (Path.read "real.db"))
    fs.IsTree ∧ resolve fs "index.db/" = (.ok (.file "index.db/"), fs) ∧
      fs.Entry (Path.read "index.db/") [] "index.db" ∧
      fs.node? ["index.db"] = some (.link (Path.read "real.db")) ∧ ¬ MissingOrRegular fs ["index.db"] := by
  intro fs
  have hreal : Path.IsName "real.db" := ⟨rfl, by decide, by decide⟩
  have hindex : Path.IsName "index.db" := ⟨rfl, by decide, by decide⟩
  have hfs : fs.IsTree :=
    (isTree_empty.put (d := []) ⟨_, rfl, rfl⟩ hreal rfl _).put (d := []) ⟨_, rfl, rfl⟩ hindex rfl _
  have hlink : fs.node? ["index.db"] = some (.link (Path.read "real.db")) := rfl
  have hinspect : fs.inspect false (Path.read "index.db/") = .error .notDirectory := by
    have hwalk : fs.walk false (Path.read "index.db/") = .error .notDirectory := by
      change fs.walkFrom false 40 [] ["index.db", ""] = _
      rw [walkFrom_name rfl hindex]
      change fs.walkFrom false 39 [] ["real.db", ""] = _
      rw [walkFrom_name rfl hreal]
      rfl
    rw [inspect, hwalk]
  refine ⟨hfs, resolve_of_file (by decide +kernel) (prepare_of_error hinspect rfl),
    ⟨.nil, hfs.root, rfl⟩, hlink, fun h => ?_⟩
  obtain ⟨c, hc⟩ := h _ hlink
  cases hc

end StoreLocation

end ChainElection
