import FileQuery.Listing.Basic
import FileQuery.Proofs.Outcome

/-!
# Directories in another order

Two file systems that differ only in the order in which directories hold their entries. A path
leads to the same node in both, so that everything that is known of a path is the same and reading
a directory gives the same entries in another order.
-/

namespace FileQuery

open Text (Bytes)

/-- The same content, but for the order of a directory's entries. Every name refers to the same
node in both orders, as it does in any two orders of entries with different names. -/
inductive Content.Reordered : Content → Content → Prop where
  | file : Content.Reordered .file .file
  | directory {parent : NodeId} {entries entries' : List (EntryName × NodeId)}
      (perm : entries.Perm entries')
      (sameNode : ∀ name, FileSystem.entry? entries name = FileSystem.entry? entries' name) :
      Content.Reordered (.directory parent entries) (.directory parent entries')
  | link (target : RawPath) : Content.Reordered (.link target) (.link target)
  | pipe : Content.Reordered .pipe .pipe

theorem Content.Reordered.refl (content : Content) : content.Reordered content := by
  cases content with
  | file => exact .file
  | directory parent entries => exact .directory (.refl entries) fun _ => rfl
  | link target => exact .link target
  | pipe => exact .pipe

/-- A name that occurs once among some entries refers to the node that it stands with. -/
theorem entry?_eq_some_iff {entries : List (EntryName × NodeId)} {name : Bytes} {id : NodeId}
    (distinct : (entries.map fun entry => entry.1.bytes).Nodup) :
    FileSystem.entry? entries name = some id ↔
      ∃ entry ∈ entries, entry.1.bytes = name ∧ entry.2 = id := by
  induction entries with
  | nil => simp [FileSystem.entry?]
  | cons first entries ih =>
      simp only [List.map_cons, List.nodup_cons, List.mem_map, not_exists, not_and] at distinct
      have rest := ih distinct.2
      by_cases here : first.1.bytes = name
      · have absent : ∀ entry ∈ entries, entry.1.bytes ≠ name := by
          intro entry member same
          exact distinct.1 entry member (same.trans here.symm)
        simp only [FileSystem.entry?, List.find?_cons, here, beq_self_eq_true, Option.map_some,
          Option.some.injEq, List.mem_cons, exists_eq_or_imp, true_and]
        constructor
        · exact Or.inl
        · rintro (same | ⟨entry, member, same, _⟩)
          · exact same
          · exact absurd same (absent entry member)
      · simpa [FileSystem.entry?, List.find?_cons, here] using rest

/-- Any two orders of entries with different names are reorderings of each other. -/
theorem Content.reordered_of_perm (parent : NodeId) {entries entries' : List (EntryName × NodeId)}
    (distinct : (entries.map fun entry => entry.1.bytes).Nodup) (perm : entries.Perm entries') :
    Content.Reordered (.directory parent entries) (.directory parent entries') := by
  refine .directory perm fun name => Option.ext fun id => ?_
  have distinct' : (entries'.map fun entry => entry.1.bytes).Nodup :=
    (perm.map _).nodup_iff.1 distinct
  simp only [entry?_eq_some_iff distinct, entry?_eq_some_iff distinct', perm.mem_iff]

/-- The same node, but for the order of a directory's entries. -/
def Node.Reordered (node node' : Node) : Prop :=
  node.content.Reordered node'.content ∧ node' = { node with content := node'.content }

theorem Node.Reordered.isLink_eq {node node' : Node} (reordered : node.Reordered node') :
    node.isLink = node'.isLink := by
  rcases reordered with ⟨content, -⟩
  unfold Node.isLink
  generalize node.content = old, node'.content = new at content
  cases content <;> rfl

theorem Node.Reordered.isDirectory_eq {node node' : Node} (reordered : node.Reordered node') :
    node.isDirectory = node'.isDirectory := by
  rcases reordered with ⟨content, -⟩
  unfold Node.isDirectory
  generalize node.content = old, node'.content = new at content
  cases content <;> rfl

/-- A record shows nothing of the order in which a directory holds its entries. -/
theorem recordOf_eq_of_reordered {node node' : Node} (reordered : node.Reordered node')
    (accounts : Accounts) (directory : RawPath) (entry : DirectoryEntry) :
    recordOf accounts directory entry node = recordOf accounts directory entry node' := by
  have isDirectory := reordered.isDirectory_eq
  rcases reordered with ⟨-, same⟩
  rw [same] at isDirectory ⊢
  simp only [recordOf, kindOf, isDirectory]

namespace FileSystem

/-- The same tree, but for the order in which directories hold their entries. -/
structure Reordered (files files' : FileSystem) : Prop where
  root_eq : files.root = files'.root
  workingDirectory_eq : files.workingDirectory = files'.workingDirectory
  nodes : ∀ id, Option.Rel Node.Reordered (files.node? id) (files'.node? id)

theorem Reordered.refl (files : FileSystem) : files.Reordered files where
  root_eq := rfl
  workingDirectory_eq := rfl
  nodes id := by
    cases files.node? id with
    | none => exact .none
    | some node => exact .some ⟨.refl _, rfl⟩

variable {files files' : FileSystem}

theorem Reordered.startOf_eq (reordered : files.Reordered files') (origin : NodeId)
    (path : RawPath) : files.startOf origin path = files'.startOf origin path := by
  simp only [startOf, reordered.root_eq]

theorem Reordered.node_cases (reordered : files.Reordered files') (id : NodeId) :
    (files.node? id = none ∧ files'.node? id = none) ∨
      ∃ node node', files.node? id = some node ∧ files'.node? id = some node' ∧
        node.Reordered node' := by
  have nodes := reordered.nodes id
  generalize files.node? id = found, files'.node? id = found' at nodes
  cases nodes with
  | none => exact Or.inl ⟨rfl, rfl⟩
  | some same => exact Or.inr ⟨_, _, rfl, rfl, same⟩

theorem Reordered.content_cases (reordered : files.Reordered files') (id : NodeId) :
    (∃ parent entries entries',
        (files.node? id).map Node.content = some (.directory parent entries) ∧
        (files'.node? id).map Node.content = some (.directory parent entries') ∧
        ∀ name, entry? entries name = entry? entries' name) ∨
      (∀ parent entries, (files.node? id).map Node.content ≠ some (.directory parent entries)) ∧
        (files.node? id).map Node.content = (files'.node? id).map Node.content := by
  rcases reordered.node_cases id with ⟨absent, absent'⟩ | ⟨node, node', found, found', same⟩
  · simp [absent, absent']
  · rcases same with ⟨content, -⟩
    simp only [found, found', Option.map_some, Option.some.injEq]
    generalize node.content = old, node'.content = new at content
    cases content with
    | directory perm sameNode => exact Or.inl ⟨_, _, _, rfl, rfl, sameNode⟩
    | file | link target | pipe => exact Or.inr ⟨by simp, rfl⟩

theorem Reordered.content_eq_link_iff (reordered : files.Reordered files') {id : NodeId}
    {target : RawPath} :
    (files.node? id).map Node.content = some (.link target) ↔
      (files'.node? id).map Node.content = some (.link target) := by
  rcases reordered.content_cases id with ⟨parent, entries, entries', old, new, -⟩ | ⟨-, same⟩
  · simp [old, new]
  · rw [same]

theorem Reordered.exists_directory (reordered : files.Reordered files') {id parent : NodeId}
    {entries : List (EntryName × NodeId)}
    (content : (files.node? id).map Node.content = some (.directory parent entries)) :
    ∃ entries', (files'.node? id).map Node.content = some (.directory parent entries') ∧
      ∀ name, entry? entries name = entry? entries' name := by
  rcases reordered.content_cases id with ⟨_, _, entries', old, new, sameNode⟩ | ⟨other, -⟩
  · rw [content] at old
    cases old
    exact ⟨entries', new, sameNode⟩
  · exact absurd content (other _ _)

/-- A path leads to the same node whatever the order of the entries on its way. -/
theorem Reordered.walk_eq (reordered : files.Reordered files') (links : Nat) (here : NodeId)
    (components : List Component) :
    files.walk links here components = files'.walk links here components := by
  fun_induction walk files links here components with
  | case1 links here => simp [walk]
  | case2 links here rest parent entries content ih =>
      rcases reordered.exists_directory content with ⟨entries', new, -⟩
      simp [walk, new, ih]
  | case3 links here rest parent entries content ih =>
      rcases reordered.exists_directory content with ⟨entries', new, -⟩
      simp [walk, new, ih]
  | case4 links here rest parent entries content name absent =>
      rcases reordered.exists_directory content with ⟨entries', new, sameNode⟩
      rw [sameNode] at absent
      simp [walk, new, absent]
  | case5 here rest parent entries content name id found target isLink =>
      rcases reordered.exists_directory content with ⟨entries', new, sameNode⟩
      rw [sameNode] at found
      rw [reordered.content_eq_link_iff] at isLink
      simp only [walk, new, found, isLink]
  | case6 here rest parent entries content name id found target isLink links ih =>
      rcases reordered.exists_directory content with ⟨entries', new, sameNode⟩
      rw [sameNode] at found
      rw [reordered.content_eq_link_iff] at isLink
      simp only [walk, new, found, isLink]
      rw [ih, reordered.startOf_eq]
  | case7 links here rest parent entries content name id found noLink ih =>
      rcases reordered.exists_directory content with ⟨entries', new, sameNode⟩
      rw [sameNode] at found
      simp only [reordered.content_eq_link_iff] at noLink
      simp only [walk, new, found, ih]
  | case8 links here component rest other =>
      rcases reordered.content_cases here with ⟨_, _, _, directory, _⟩ | ⟨_, same⟩
      · exact absurd directory (other _ _)
      · rw [same] at other
        simp only [walk]

theorem Reordered.locate_eq (reordered : files.Reordered files') (path : RawPath) :
    files.locate path = files'.locate path := by
  simp only [locate, reordered.workingDirectory_eq, reordered.startOf_eq, reordered.walk_eq]

theorem Reordered.stat_cases (reordered : files.Reordered files') (path : RawPath) :
    (∃ cause, files.stat path = .error cause ∧ files'.stat path = .error cause) ∨
      ∃ node node', files.stat path = .ok node ∧ files'.stat path = .ok node' ∧
        node.Reordered node' := by
  simp only [stat, reordered.locate_eq]
  cases files'.locate path with
  | error cause => exact Or.inl ⟨cause, rfl, rfl⟩
  | ok id =>
      rcases reordered.node_cases id with ⟨absent, absent'⟩ | ⟨node, node', found, found', same⟩
      · exact Or.inl ⟨.notFound, by simp [absent], by simp [absent']⟩
      · exact Or.inr ⟨node, node', by simp [found], by simp [found'], same⟩

theorem Reordered.pathExists_eq (reordered : files.Reordered files') (path : RawPath) :
    files.pathExists path = files'.pathExists path := by
  unfold pathExists
  rcases reordered.stat_cases path with ⟨cause, old, new⟩ | ⟨node, node', old, new, -⟩
  · rw [old, new]
  · rw [old, new]
    rfl

theorem Reordered.any_isLink_eq (reordered : files.Reordered files') (id : NodeId) :
    (files.node? id).any Node.isLink = (files'.node? id).any Node.isLink := by
  rcases reordered.node_cases id with ⟨absent, absent'⟩ | ⟨node, node', found, found', same⟩
  · rw [absent, absent']
  · simp only [found, found', Option.any_some, same.isLink_eq]

/-- Reading a directory fails in the same way, or gives the same entries in another order. -/
theorem Reordered.readDirectory_cases (reordered : files.Reordered files') (path : RawPath) :
    (∃ cause, files.readDirectory path = .error cause ∧
        files'.readDirectory path = .error cause) ∨
      ∃ entries entries', files.readDirectory path = .ok entries ∧
        files'.readDirectory path = .ok entries' ∧ entries'.Perm entries := by
  unfold readDirectory
  rcases reordered.stat_cases path with ⟨cause, old, new⟩ | ⟨node, node', old, new, same⟩
  · exact Or.inl ⟨cause, by simp [old], by simp [new]⟩
  · rcases same with ⟨content, -⟩
    simp only [old, new, Outcome.ok_bind]
    generalize node.content = content₁, node'.content = content₂ at content
    cases content with
    | file | link target | pipe => exact Or.inl ⟨.notDirectory, rfl, rfl⟩
    | directory perm =>
        refine Or.inr ⟨_, _, rfl, rfl, ?_⟩
        simp only [reordered.any_isLink_eq]
        exact perm.symm.map _

end FileSystem

section Listing

variable {files files' : FileSystem}

theorem resolvePath_eq_of_reordered (reordered : files.Reordered files') (home : Option String)
    (raw : String) : resolvePath files home raw = resolvePath files' home raw := by
  simp only [resolvePath, reordered.pathExists_eq]

theorem inspect_eq_of_reordered (reordered : files.Reordered files') (accounts : Accounts)
    (directory : RawPath) :
    inspect files accounts directory = inspect files' accounts directory := by
  funext entry
  unfold inspect
  rcases reordered.stat_cases (directory.join entry.name.bytes) with
    ⟨cause, old, new⟩ | ⟨node, node', old, new, same⟩
  · simp only [old, new]
  · simp only [old, new, recordOf_eq_of_reordered same]

theorem readEntries_cases_of_reordered (reordered : files.Reordered files')
    (directory : RawPath) :
    (∃ cause, readEntries files directory = .error cause ∧
        readEntries files' directory = .error cause) ∨
      ∃ entries entries', readEntries files directory = .ok entries ∧
        readEntries files' directory = .ok entries' ∧ entries'.Perm entries := by
  unfold readEntries
  rcases reordered.readDirectory_cases directory with
    ⟨cause, old, new⟩ | ⟨entries, entries', old, new, perm⟩
  · exact Or.inl ⟨.readDirectory directory cause, by simp [old], by simp [new]⟩
  · exact Or.inr ⟨entries, entries', by simp [old], by simp [new], perm⟩

end Listing

end FileQuery
