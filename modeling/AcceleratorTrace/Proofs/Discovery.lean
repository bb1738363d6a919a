import AcceleratorTrace.Proofs.FileContents

/-!
# Gathering files

The files of a task come from the entries of a directory or from a list of paths.
Either way none is lost or taken twice, and the files stand by device and slice number.
For a directory the result does not depend on the order in which its entries are
listed, as long as no two names say the same; for paths, files with equal numbers keep
the order in which they were given.
-/

namespace AcceleratorTrace

namespace SliceFile

/-- The file stands before another by device, or by slice number on one device. -/
def Precedes (first second : SliceFile) : Prop :=
  first.device.toNat < second.device.toNat ∨
    first.device = second.device ∧ first.slice.toNat < second.slice.toNat

/-- The numbers of two files are the same. -/
def Ties (first second : SliceFile) : Prop :=
  first.device = second.device ∧ first.slice = second.slice

theorem before_iff_precedes_or_ties (first second : SliceFile) :
    first.before second = true ↔ first.Precedes second ∨ first.Ties second := by
  simp only [before_iff, Precedes, Ties, UInt32.lt_iff_toNat_lt, UInt32.le_iff_toNat_le,
    ← UInt32.toNat_inj]
  omega

theorem ties_of_before {first second : SliceFile} (left : first.before second = true)
    (right : second.before first = true) : first.Ties second := by
  simp only [before_iff, Ties, UInt32.lt_iff_toNat_lt, UInt32.le_iff_toNat_le,
    ← UInt32.toNat_inj] at *
  omega

end SliceFile

theorem perm_sortFiles (files : List SliceFile) : (sortFiles files).Perm files :=
  List.mergeSort_perm files SliceFile.before

/-- Sorting keeps files with equal numbers in their order: by numbers and then by
position the sorted files are in one strict order. -/
theorem exists_stable_order (files : List SliceFile) :
    ∃ placed : List (SliceFile × Nat), placed.Perm files.zipIdx ∧
      placed.map Prod.fst = sortFiles files ∧
      placed.Pairwise fun first second => first.1.Precedes second.1 ∨
        first.1.Ties second.1 ∧ first.2 < second.2 := by
  let placed := files.zipIdx.mergeSort (List.zipIdxLE SliceFile.before)
  have permuted : placed.Perm files.zipIdx := List.mergeSort_perm _ _
  refine ⟨placed, permuted, List.mergeSort_zipIdx, ?_⟩
  have ordered : placed.Pairwise fun first second =>
      List.zipIdxLE SliceFile.before first second = true := by
    apply List.pairwise_mergeSort
    · exact List.zipIdxLE_trans SliceFile.before_trans
    · exact List.zipIdxLE_total SliceFile.before_total
  have apart : placed.Pairwise fun first second => first.2 ≠ second.2 := by
    apply List.pairwise_map.mp
    apply ((permuted.map Prod.snd).nodup_iff).mpr
    rw [List.zipIdx_map_snd]
    exact List.nodup_range'
  refine (ordered.and apart).imp ?_
  intro first second ⟨order, positions⟩
  simp only [List.zipIdxLE] at order
  split at order
  · rename_i forward
    split at order
    · rename_i backward
      have earlier := of_decide_eq_true order
      exact .inr ⟨SliceFile.ties_of_before forward backward, by omega⟩
    · rename_i backward
      rcases (SliceFile.before_iff_precedes_or_ties _ _).mp forward with precedes | ties
      · exact .inl precedes
      · -- Files with equal numbers stand before each other, which was excluded.
        refine absurd ?_ backward
        rw [SliceFile.before_iff_precedes_or_ties]
        exact .inr ⟨ties.1.symm, ties.2.symm⟩
  · cases order

namespace DirectoryEntry

/-- The entry is a regular file whose name is this text, and the text is a slice name. -/
structure Names (entry : DirectoryEntry) (text : String) (name : SliceName) : Prop where
  regular : entry.kind = .file
  bytes : entry.name = text.toUTF8.data.toList
  read : SliceName.parse? text = some name

/-- The entry is a slice of the engine, and this is its file in the directory. -/
def Lists (directory : String) (engine : Engine) (entry : DirectoryEntry) (file : SliceFile) :
    Prop :=
  ∃ text name, entry.Names text name ∧ name.engine = engine ∧
    file = ⟨Path.join directory text, name.device, name.slice⟩

/-- No two slice names of the entries say the same. -/
def Apart (first second : DirectoryEntry) : Prop :=
  ∀ firstText firstName secondText secondName, first.Names firstText firstName →
    second.Names secondText secondName → firstName ≠ secondName

variable {directory : String} {engine : Engine} {entry : DirectoryEntry}

theorem fileText?_eq_some_iff {text : String} :
    entry.fileText? = some text ↔ entry.kind = .file ∧ entry.name = text.toUTF8.data.toList := by
  rw [← textOfBytes?_eq_some_iff, fileText?, text?]
  cases entry.kind with
  | file => simp
  | directory => simp
  | other => simp

theorem sliceFile?_eq_some_iff {file : SliceFile} :
    entry.sliceFile? directory = some (engine, file) ↔ entry.Lists directory engine file := by
  simp only [sliceFile?, bind, pure, Option.bind_eq_some_iff, fileText?_eq_some_iff,
    Option.some.injEq, Prod.mk.injEq]
  constructor
  · intro ⟨text, ⟨regular, bytes⟩, name, read, owner, made⟩
    exact ⟨text, name, ⟨regular, bytes, read⟩, owner, made.symm⟩
  · intro ⟨text, name, names, owner, made⟩
    exact ⟨text, ⟨names.regular, names.bytes⟩, name, names.read, owner, made.symm⟩

theorem exists_lists_iff :
    (∃ file, entry.Lists directory engine file) ↔
      ∃ text name, entry.Names text name ∧ name.engine = engine := by
  constructor
  · intro ⟨file, text, name, names, own, _⟩
    exact ⟨text, name, names, own⟩
  · intro ⟨text, name, names, own⟩
    exact ⟨_, text, name, names, own, rfl⟩

theorem Names.unique {text otherText : String} {name otherName : SliceName}
    (names : entry.Names text name) (others : entry.Names otherText otherName) :
    text = otherText ∧ name = otherName := by
  have texts := (textOfBytes?_eq_some_iff.mpr names.bytes).symm.trans
    (textOfBytes?_eq_some_iff.mpr others.bytes)
  obtain rfl := Option.some.inj texts
  exact ⟨rfl, Option.some.inj (names.read.symm.trans others.read)⟩

theorem Lists.unique {file other : SliceFile} (lists : entry.Lists directory engine file)
    (others : entry.Lists directory engine other) : file = other := by
  have same := (sliceFile?_eq_some_iff.mpr lists).symm.trans (sliceFile?_eq_some_iff.mpr others)
  exact congrArg Prod.snd (Option.some.inj same)

theorem Apart.not_ties {other : DirectoryEntry} {file otherFile : SliceFile}
    (apart : entry.Apart other) (lists : entry.Lists directory engine file)
    (others : other.Lists directory engine otherFile) : ¬ file.Ties otherFile := by
  obtain ⟨text, name, names, owner, rfl⟩ := lists
  obtain ⟨otherText, otherName, otherNames, otherOwner, rfl⟩ := others
  intro ⟨devices, slices⟩
  apply apart _ _ _ _ names otherNames
  cases name
  cases otherName
  simp_all

instance : Std.Symm Apart where
  symm _ _ apart firstText firstName secondText secondName firstNames secondNames :=
    (apart secondText secondName firstText firstName secondNames firstNames).symm

end DirectoryEntry

/-- The slices of an engine among the entries, as they are listed. -/
def slicesOf (directory : String) (engine : Engine) (entries : List DirectoryEntry) :
    List SliceFile :=
  ((entries.filterMap (DirectoryEntry.sliceFile? directory)).filter
    fun file => file.1 == engine).map Prod.snd

section Slices

variable {directory : String} {engine : Engine}

theorem slicesOf_cons_of_lists {entry : DirectoryEntry} {file : SliceFile}
    (lists : entry.Lists directory engine file) (entries : List DirectoryEntry) :
    slicesOf directory engine (entry :: entries) = file :: slicesOf directory engine entries := by
  simp [slicesOf, DirectoryEntry.sliceFile?_eq_some_iff.mpr lists]

theorem slicesOf_cons_of_not {entry : DirectoryEntry}
    (other : ∀ file, ¬ entry.Lists directory engine file) (entries : List DirectoryEntry) :
    slicesOf directory engine (entry :: entries) = slicesOf directory engine entries := by
  cases found : entry.sliceFile? directory with
  | none => simp [slicesOf, found]
  | some slice =>
      have foreign : slice.1 ≠ engine := by
        intro own
        apply other slice.2
        rw [← DirectoryEntry.sliceFile?_eq_some_iff, found, ← own]
      simp [slicesOf, found, foreign]

/-- The entries fall into those that are slices of the engine, each with its file, and
those that are not. -/
theorem exists_chosen (directory : String) (engine : Engine) (entries : List DirectoryEntry) :
    ∃ chosen others, (chosen ++ others).Perm entries ∧
      List.Forall₂ (DirectoryEntry.Lists directory engine) chosen
        (slicesOf directory engine entries) ∧
      ∀ other ∈ others, ∀ file, ¬ other.Lists directory engine file := by
  induction entries with
  | nil => exact ⟨[], [], .refl _, .nil, nofun⟩
  | cons entry entries induction =>
      obtain ⟨chosen, others, permuted, listed, foreign⟩ := induction
      by_cases slice : ∃ file, entry.Lists directory engine file
      · obtain ⟨file, lists⟩ := slice
        rw [slicesOf_cons_of_lists lists]
        exact ⟨entry :: chosen, others, permuted.cons entry, .cons lists listed, foreign⟩
      · rw [not_exists] at slice
        rw [slicesOf_cons_of_not slice]
        refine ⟨chosen, entry :: others, List.perm_middle.trans (permuted.cons entry), listed, ?_⟩
        rw [List.forall_mem_cons]
        exact ⟨slice, foreign⟩

theorem mem_slicesOf_iff {entries : List DirectoryEntry} {file : SliceFile} :
    file ∈ slicesOf directory engine entries ↔
      ∃ entry ∈ entries, entry.Lists directory engine file := by
  simp [slicesOf, DirectoryEntry.sliceFile?_eq_some_iff]

theorem perm_slicesOf {entries others : List DirectoryEntry} (same : others.Perm entries) :
    (slicesOf directory engine others).Perm (slicesOf directory engine entries) :=
  ((same.filterMap _).filter _).map _

theorem sortFiles_slicesOf_of_perm {entries others : List DirectoryEntry}
    (apart : entries.Pairwise DirectoryEntry.Apart) (same : others.Perm entries) :
    sortFiles (slicesOf directory engine others) =
      sortFiles (slicesOf directory engine entries) := by
  have permuted : (sortFiles (slicesOf directory engine others)).Perm
      (sortFiles (slicesOf directory engine entries)) :=
    (perm_sortFiles _).trans ((perm_slicesOf same).trans (perm_sortFiles _).symm)
  refine List.Perm.eq_of_pairwise ?_ (pairwise_sortFiles _) (pairwise_sortFiles _) permuted
  intro first second firstMember secondMember left right
  rw [permuted.mem_iff, (perm_sortFiles _).mem_iff, mem_slicesOf_iff] at firstMember
  rw [(perm_sortFiles _).mem_iff, mem_slicesOf_iff] at secondMember
  obtain ⟨entry, member, lists⟩ := firstMember
  obtain ⟨other, otherMember, otherLists⟩ := secondMember
  by_cases one : entry = other
  · subst one
    exact lists.unique otherLists
  · have distinct := apart.forall member otherMember one
    exact absurd (SliceFile.ties_of_before left right) (distinct.not_ties lists otherLists)

theorem sortFiles_eq_nil_iff (files : List SliceFile) : sortFiles files = [] ↔ files = [] := by
  constructor
  · intro empty
    have permuted := perm_sortFiles files
    rw [empty] at permuted
    exact permuted.nil_eq.symm
  · intro empty
    simp [empty, sortFiles]

theorem groupSlices_eq (directory : String) (entries : List DirectoryEntry) :
    groupSlices directory entries = Engine.all.filterMap fun engine =>
      if sortFiles (slicesOf directory engine entries) = [] then none
      else some (engine, sortFiles (slicesOf directory engine entries)) := by
  apply List.filterMap_congr
  intro engine _
  simp only [sortFiles_eq_nil_iff, slicesOf]
  split
  · rename_i empty
    rw [if_pos empty]
  · rename_i nonempty
    rw [if_neg nonempty]

theorem engines_groupSlices (directory : String) (entries : List DirectoryEntry) :
    ((groupSlices directory entries).map Prod.fst).Sublist Engine.all := by
  rw [groupSlices_eq]
  induction Engine.all with
  | nil => exact .slnil
  | cons engine rest induction =>
      by_cases empty : sortFiles (slicesOf directory engine entries) = []
      · simpa [empty] using induction.cons engine
      · simpa [empty] using induction.cons_cons engine

theorem mem_groupSlices_iff {entries : List DirectoryEntry} {files : List SliceFile} :
    (engine, files) ∈ groupSlices directory entries ↔
      files ≠ [] ∧ files = sortFiles (slicesOf directory engine entries) := by
  have known : engine ∈ Engine.all := by cases engine <;> decide
  rw [groupSlices_eq, List.mem_filterMap]
  constructor
  · intro ⟨owner, _, made⟩
    split at made
    · cases made
    · rename_i nonempty
      cases made
      exact ⟨nonempty, rfl⟩
  · intro ⟨nonempty, made⟩
    subst made
    exact ⟨engine, known, if_neg nonempty⟩

theorem exists_mem_groupSlices_iff {entries : List DirectoryEntry} :
    (∃ files, (engine, files) ∈ groupSlices directory entries) ↔
      ∃ entry ∈ entries, ∃ file, entry.Lists directory engine file := by
  constructor
  · intro ⟨files, grouped⟩
    obtain ⟨nonempty, rfl⟩ := mem_groupSlices_iff.mp grouped
    obtain ⟨file, among⟩ := List.exists_mem_of_ne_nil _ nonempty
    rw [(perm_sortFiles _).mem_iff, mem_slicesOf_iff] at among
    obtain ⟨entry, member, lists⟩ := among
    exact ⟨entry, member, file, lists⟩
  · intro ⟨entry, member, file, lists⟩
    have among := (perm_sortFiles _).mem_iff.mpr (mem_slicesOf_iff.mpr ⟨entry, member, lists⟩)
    exact ⟨_, mem_groupSlices_iff.mpr ⟨List.ne_nil_of_mem among, rfl⟩⟩

theorem exists_chosen_of_mem {entries : List DirectoryEntry} {files : List SliceFile}
    (grouped : (engine, files) ∈ groupSlices directory entries) :
    ∃ chosen others, (chosen ++ others).Perm entries ∧
      List.Forall₂ (DirectoryEntry.Lists directory engine) chosen files ∧
      ∀ other ∈ others, ∀ file, ¬ other.Lists directory engine file := by
  obtain ⟨-, rfl⟩ := mem_groupSlices_iff.mp grouped
  obtain ⟨chosen, others, permuted, listed, foreign⟩ := exists_chosen directory engine entries
  -- Sorting moves the entries along with their files.
  have sorted : Relation.Comp (List.Forall₂ (DirectoryEntry.Lists directory engine)) List.Perm
      chosen (sortFiles (slicesOf directory engine entries)) :=
    ⟨_, listed, (perm_sortFiles _).symm⟩
  rw [List.forall₂_comp_perm_eq_perm_comp_forall₂] at sorted
  obtain ⟨moved, movedPerm, movedListed⟩ := sorted
  exact ⟨moved, others, (movedPerm.symm.append_right others).trans permuted, movedListed, foreign⟩

end Slices

/-- The file of the path at a position: its numbers are those of its name, and a path
without a slice name, or with a name that is no text, counts as device 0 and takes the
position as its slice number. -/
inductive SliceFile.StandsAt (paths : List FilePath) (position : Nat) : SliceFile → Prop where
  | named {path : FilePath} {last : String} {name : SliceName}
      (given : paths[position]? = some path)
      (component : path.fileName? = some last.toUTF8.data.toList)
      (read : SliceName.parse? last = some name) :
      StandsAt paths position ⟨path, name.device, name.slice⟩
  | unnamed {path : FilePath} {slice : UInt32} (given : paths[position]? = some path)
      (other : ∀ last : String, path.fileName? = some last.toUTF8.data.toList →
        SliceName.parse? last = none)
      (number : slice.toNat = position % 2 ^ 32) : StandsAt paths position ⟨path, 0, slice⟩

theorem FilePath.sliceName?_eq_some_iff {path : FilePath} {name : SliceName} :
    path.sliceName? = some name ↔
      ∃ last : String, path.fileName? = some last.toUTF8.data.toList ∧
        SliceName.parse? last = some name := by
  simp only [sliceName?, bind, Option.bind_eq_some_iff, textOfBytes?_eq_some_iff]
  constructor
  · rintro ⟨bytes, component, last, rfl, read⟩
    exact ⟨last, component, read⟩
  · rintro ⟨last, component, read⟩
    exact ⟨_, component, last, rfl, read⟩

theorem SliceFile.ofPath_standsAt {paths : List FilePath} {path : FilePath} {position : Nat}
    (given : paths[position]? = some path) : StandsAt paths position (ofPath path position) := by
  rw [ofPath]
  cases named : path.sliceName? with
  | some name =>
      obtain ⟨last, component, read⟩ := FilePath.sliceName?_eq_some_iff.mp named
      exact .named given component read
  | none =>
      refine .unnamed given ?_ (UInt32.toNat_ofNat' ..)
      intro last component
      by_contra read
      obtain ⟨name, read⟩ := Option.ne_none_iff_exists'.mp read
      rw [FilePath.sliceName?_eq_some_iff.mpr ⟨last, component, read⟩] at named
      cases named

/-- The files of paths are their files by position, in the order of a stable sort. -/
theorem exists_placed_paths (paths : List FilePath) :
    ∃ placed : List (SliceFile × Nat), placed.map Prod.fst = filesOfPaths paths ∧
      (placed.map Prod.snd).Perm (List.range paths.length) ∧
      (∀ file position, (file, position) ∈ placed → file.StandsAt paths position) ∧
      placed.Pairwise fun first second => first.1.Precedes second.1 ∨
        first.1.Ties second.1 ∧ first.2 < second.2 := by
  let files := paths.zipIdx.map fun entry => SliceFile.ofPath entry.1 entry.2
  obtain ⟨placed, permuted, sorted, ordered⟩ := exists_stable_order files
  refine ⟨placed, sorted, ?_, ?_, ordered⟩
  · have positions := permuted.map Prod.snd
    rw [List.zipIdx_map_snd, List.length_map, List.length_zipIdx] at positions
    rwa [List.range_eq_range']
  · intro file position member
    rw [permuted.mem_iff, List.mk_mem_zipIdx_iff_getElem?, List.getElem?_map,
      List.getElem?_zipIdx, Nat.zero_add] at member
    cases given : paths[position]? with
    | none =>
        rw [given] at member
        cases member
    | some path =>
        rw [given] at member
        obtain rfl := Option.some.inj member
        exact SliceFile.ofPath_standsAt given

/-- What a directory holds is gathered without loss: an engine has a set exactly if some
entry is a slice of it, and then the files of the set are those of all such entries, each
once, by device and slice number.  Listing the entries in another order makes no
difference if no two names say the same.  Given paths are all kept, each once and with
ties in the order given. -/
theorem files_are_gathered_without_loss (directory : String) (entries : List DirectoryEntry)
    (paths : List FilePath) :
    let sets := groupSlices directory entries
    (sets.map Prod.fst).Sublist Engine.all ∧
      (∀ engine, (∃ files, (engine, files) ∈ sets) ↔
        ∃ entry ∈ entries, ∃ text name, entry.Names text name ∧ name.engine = engine) ∧
      (∀ engine files, (engine, files) ∈ sets →
        files.Pairwise (fun first second => first.Precedes second ∨ first.Ties second) ∧
        ∃ chosen others, (chosen ++ others).Perm entries ∧
          List.Forall₂ (DirectoryEntry.Lists directory engine) chosen files ∧
          ∀ other ∈ others, ∀ text name, other.Names text name → name.engine ≠ engine) ∧
      (∀ others, others.Perm entries → entries.Pairwise DirectoryEntry.Apart →
        groupSlices directory others = sets) ∧
      ∃ placed : List (SliceFile × Nat), placed.map Prod.fst = filesOfPaths paths ∧
        (placed.map Prod.snd).Perm (List.range paths.length) ∧
        (∀ file position, (file, position) ∈ placed → file.StandsAt paths position) ∧
        placed.Pairwise fun first second => first.1.Precedes second.1 ∨
          first.1.Ties second.1 ∧ first.2 < second.2 := by
  intro sets
  refine ⟨engines_groupSlices directory entries, ?_, ?_, ?_, exists_placed_paths paths⟩
  · intro engine
    rw [exists_mem_groupSlices_iff]
    simp only [DirectoryEntry.exists_lists_iff]
  · intro engine files grouped
    obtain ⟨chosen, others, permuted, listed, foreign⟩ := exists_chosen_of_mem grouped
    obtain ⟨-, rfl⟩ := mem_groupSlices_iff.mp grouped
    refine ⟨?_, chosen, others, permuted, listed, ?_⟩
    · simp only [← SliceFile.before_iff_precedes_or_ties]
      exact pairwise_sortFiles _
    · intro other member text name names own
      obtain ⟨file, lists⟩ := DirectoryEntry.exists_lists_iff.mpr ⟨text, name, names, own⟩
      exact foreign other member file lists
  · intro others same apart
    rw [groupSlices_eq, show sets = _ from groupSlices_eq directory entries]
    simp only [sortFiles_slicesOf_of_perm apart same]

/-- Slice 10 is listed before slice 2, and a directory has the name of a slice.  Of two
given paths the first ends in a name that is no text. -/
theorem files_are_gathered_without_loss_ten_before_two :
    let ten : DirectoryEntry := ⟨"qos.data.0.slice_10".toUTF8.data.toList, .file⟩
    let two : DirectoryEntry := ⟨"qos.data.0.slice_2".toUTF8.data.toList, .file⟩
    let folder : DirectoryEntry := ⟨"qos.data.0.slice_3".toUTF8.data.toList, .directory⟩
    [two, ten, folder].Pairwise DirectoryEntry.Apart ∧
      groupSlices "" [ten, folder, two] = [(.qos, [⟨"qos.data.0.slice_2", 0, 2⟩,
        ⟨"qos.data.0.slice_10", 0, 10⟩])] ∧
      filesOfPaths [⟨[0x61, 0x2f, 0xff]⟩, ⟨[0x62]⟩] =
        [⟨⟨[0x61, 0x2f, 0xff]⟩, 0, 0⟩, ⟨⟨[0x62]⟩, 0, 1⟩] := by
  intro ten two folder
  have tenNames : ten.Names "qos.data.0.slice_10" ⟨.qos, 0, 10⟩ := ⟨rfl, rfl, by cbv⟩
  have twoNames : two.Names "qos.data.0.slice_2" ⟨.qos, 0, 2⟩ := ⟨rfl, rfl, by cbv⟩
  have apart : [two, ten, folder].Pairwise DirectoryEntry.Apart := by
    have distinct : two.Apart ten := by
      intro text name otherText otherName names otherNames
      rw [(names.unique twoNames).2, (otherNames.unique tenNames).2]
      decide
    have folderApart : ∀ entry, DirectoryEntry.Apart entry folder := by
      intro entry text name otherText otherName names otherNames
      cases otherNames.regular
    simp [distinct, folderApart]
  have listings := (files_are_gathered_without_loss "" [two, ten, folder] []).2.2.2.1
    [ten, folder, two] (by decide) apart
  refine ⟨apart, listings.trans ?_, (List.mergeSort_of_pairwise (by decide)).trans (by decide)⟩
  have tenFile : ten.sliceFile? "" = some (.qos, ⟨"qos.data.0.slice_10", 0, 10⟩) :=
    DirectoryEntry.sliceFile?_eq_some_iff.mpr ⟨_, _, tenNames, rfl, by simp [Path.join]⟩
  have twoFile : two.sliceFile? "" = some (.qos, ⟨"qos.data.0.slice_2", 0, 2⟩) :=
    DirectoryEntry.sliceFile?_eq_some_iff.mpr ⟨_, _, twoNames, rfl, by simp [Path.join]⟩
  have folderFile : folder.sliceFile? "" = none := rfl
  have sorted : sortFiles [⟨"qos.data.0.slice_2", 0, 2⟩, ⟨"qos.data.0.slice_10", 0, 10⟩] =
      [⟨"qos.data.0.slice_2", 0, 2⟩, ⟨"qos.data.0.slice_10", 0, 10⟩] :=
    List.mergeSort_of_pairwise (by decide)
  simp [groupSlices, tenFile, twoFile, folderFile, Engine.all, sorted]

end AcceleratorTrace
