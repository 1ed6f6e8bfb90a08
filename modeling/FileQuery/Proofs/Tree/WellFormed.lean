import FileQuery.Proofs.Tree.TrailingSlash
import FileQuery.Tree.Entries

/-!
# Well-formed file systems

In a well-formed file system the names in each directory are different and the parent of a directory
is a directory. The bare file system is well-formed, and so is every file system that is built from
a list of entries, since each of the three changes that building makes keeps it so: to put another
node in the place of one, to add a node, and to add a name to a directory.
-/

namespace FileQuery.FileSystem

structure WellFormed (files : FileSystem) : Prop where
  parent_isDirectory : ∀ id parent entries,
    (files.node? id).map Node.content = some (.directory parent entries) →
      files.IsDirectory parent
  names_nodup : ∀ id parent entries,
    (files.node? id).map Node.content = some (.directory parent entries) →
      (entries.map fun entry => entry.1.bytes).Nodup

variable {files files' : FileSystem}

theorem WellFormed.inOrder {id parent : NodeId} {node : Node}
    {entries : List (EntryName × NodeId)} (wellFormed : files.WellFormed)
    (found : files.node? id = some node) (content : node.content = .directory parent entries) :
    files.IsDirectory parent ∧ (entries.map fun entry => entry.1.bytes).Nodup := by
  have shown : (files.node? id).map Node.content = some (.directory parent entries) := by
    rw [found, Option.map_some, content]
  exact ⟨wellFormed.parent_isDirectory id parent entries shown,
    wellFormed.names_nodup id parent entries shown⟩

theorem node?_setNode {id : NodeId} {old : Node} (found : files.node? id = some old) (node : Node)
    (other : NodeId) :
    (files.setNode id node).node? other = if id = other then some node else files.node? other := by
  have inside := (Array.getElem?_eq_some_iff.1 found).1
  simp only [node?, setNode, Array.getElem?_setIfInBounds, if_pos inside]

theorem node?_withNode (files : FileSystem) (node : Node) (other : NodeId) :
    (files.withNode node).node? other =
      if other = files.nodes.size then some node else files.node? other := by
  simp only [node?, withNode, Array.getElem?_push]

theorem isDirectory_of_content {id parent : NodeId} {node : Node}
    {entries : List (EntryName × NodeId)} (found : files.node? id = some node)
    (content : node.content = .directory parent entries) : files.IsDirectory id :=
  ⟨parent, entries, by rw [found, Option.map_some, content]⟩

/-- A new node leaves the directories as they are. -/
theorem IsDirectory.withNode {id : NodeId} (isDirectory : files.IsDirectory id) (node : Node) :
    (files.withNode node).IsDirectory id := by
  rcases isDirectory with ⟨parent, entries, content⟩
  refine ⟨parent, entries, ?_⟩
  rw [node?_withNode, if_neg]
  · exact content
  · rintro rfl
    simp [node?] at content

theorem IsDirectory.setNode {id other : NodeId} {old node : Node}
    (isDirectory : files.IsDirectory other) (found : files.node? id = some old)
    (stays : old.isDirectory = true → node.isDirectory = true) :
    (files.setNode id node).IsDirectory other := by
  rcases isDirectory with ⟨parent, entries, content⟩
  by_cases here : id = other
  · subst here
    rw [found, Option.map_some, Option.some.injEq] at content
    have still := stays (by rw [Node.isDirectory, content])
    unfold Node.isDirectory at still
    split at still
    · rename_i parent' entries' content'
      refine ⟨parent', entries', ?_⟩
      rw [node?_setNode found, if_pos rfl, Option.map_some, content']
    · cases still
  · refine ⟨parent, entries, ?_⟩
    rw [node?_setNode found, if_neg here]
    exact content

/-- A node can be put in the place of another one if a directory stays one and the new content of a
directory is in order. -/
theorem WellFormed.setNode {id : NodeId} {old node : Node} (wellFormed : files.WellFormed)
    (found : files.node? id = some old)
    (stays : old.isDirectory = true → node.isDirectory = true)
    (inOrder : ∀ parent entries, node.content = .directory parent entries →
      files.IsDirectory parent ∧ (entries.map fun entry => entry.1.bytes).Nodup) :
    (files.setNode id node).WellFormed := by
  have cases : ∀ other parent entries,
      ((files.setNode id node).node? other).map Node.content = some (.directory parent entries) →
        files.IsDirectory parent ∧ (entries.map fun entry => entry.1.bytes).Nodup := by
    intro other parent entries content
    rw [node?_setNode found] at content
    split at content
    · exact inOrder parent entries (Option.some.inj content)
    · exact ⟨wellFormed.parent_isDirectory other parent entries content,
        wellFormed.names_nodup other parent entries content⟩
  constructor
  · intro other parent entries content
    exact (cases other parent entries content).1.setNode found stays
  · intro other parent entries content
    exact (cases other parent entries content).2

/-- A node can be added if it is no directory, or an empty one with a directory as its parent. -/
theorem WellFormed.withNode {node : Node} (wellFormed : files.WellFormed)
    (inOrder : ∀ parent entries, node.content = .directory parent entries →
      (files.withNode node).IsDirectory parent ∧ entries = []) :
    (files.withNode node).WellFormed := by
  constructor
  · intro other parent entries content
    rw [node?_withNode] at content
    split at content
    · exact (inOrder parent entries (Option.some.inj content)).1
    · exact (wellFormed.parent_isDirectory other parent entries content).withNode node
  · intro other parent entries content
    rw [node?_withNode] at content
    split at content
    · rw [(inOrder parent entries (Option.some.inj content)).2]
      exact List.nodup_nil
    · exact wellFormed.names_nodup other parent entries content

/-- A name is only added to a directory in which it is not taken. -/
theorem exists_of_addName_eq_some {directory id : NodeId} {name : EntryName}
    (added : files.addName directory name id = some files') :
    ∃ node parent entries, files.node? directory = some node ∧
      node.content = .directory parent entries ∧ entry? entries name.bytes = none ∧
      files' = files.setNode directory
        { node with content := .directory parent (entries ++ [(name, id)]) } := by
  unfold addName at added
  split at added
  · rename_i node found
    split at added
    · rename_i parent entries content
      split at added
      · rename_i absent
        exact ⟨node, parent, entries, found, content, absent, (Option.some.inj added).symm⟩
      · cases added
    · cases added
  · cases added

theorem entry?_eq_none_iff {entries : List (EntryName × NodeId)} {name : Text.Bytes} :
    entry? entries name = none ↔ name ∉ entries.map fun entry => entry.1.bytes := by
  simp [FileSystem.entry?, List.find?_eq_none]

theorem WellFormed.addName {directory id : NodeId} {name : EntryName}
    (wellFormed : files.WellFormed) (added : files.addName directory name id = some files') :
    files'.WellFormed := by
  rcases exists_of_addName_eq_some added with
    ⟨node, parent, entries, found, content, absent, rfl⟩
  rcases wellFormed.inOrder found content with ⟨isDirectory, distinct⟩
  apply wellFormed.setNode found
  · intro
    rfl
  · rintro _ _ ⟨⟩
    refine ⟨isDirectory, ?_⟩
    rw [List.map_append, List.map_singleton, List.nodup_append_comm]
    exact List.nodup_cons.2 ⟨entry?_eq_none_iff.1 absent, distinct⟩

theorem WellFormed.addNode {directory id : NodeId} {name : EntryName} {node : Node}
    (wellFormed : files.WellFormed)
    (inOrder : ∀ parent entries, node.content = .directory parent entries →
      parent = directory ∧ entries = [])
    (added : files.addNode directory name node = some (files', id)) : files'.WellFormed := by
  rcases Option.map_eq_some_iff.1 added with ⟨named, addedName, ⟨⟩⟩
  rcases exists_of_addName_eq_some addedName with ⟨_, _, _, found, content, -⟩
  refine (wellFormed.withNode ?_).addName addedName
  intro parent entries new
  rcases inOrder parent entries new with ⟨rfl, empty⟩
  exact ⟨isDirectory_of_content found content, empty⟩

theorem wellFormed_bare (owner group : UInt32) : (bare owner group).WellFormed := by
  have only : ∀ id parent entries,
      ((bare owner group).node? id).map Node.content = some (.directory parent entries) →
        parent = 0 ∧ (entries.map fun entry => entry.1.bytes).Nodup := by
    intro id parent entries content
    match id with
    | 0 =>
        cases content
        exact ⟨rfl, List.nodup_singleton _⟩
    | 1 =>
        cases content
        exact ⟨rfl, List.nodup_nil⟩
    | _ + 2 => cases content
  constructor
  · intro id parent entries content
    rw [(only id parent entries content).1]
    exact ⟨_, _, rfl⟩
  · intro id parent entries content
    exact (only id parent entries content).2

theorem WellFormed.makeDirectories {here id : NodeId} {owner group : UInt32}
    {components : List Component} (wellFormed : files.WellFormed)
    (made : files.makeDirectories here owner group components = some (files', id)) :
    files'.WellFormed := by
  induction components generalizing files here with
  | nil =>
      cases made
      exact wellFormed
  | cons component rest ih =>
      unfold FileSystem.makeDirectories at made
      split at made
      · exact ih wellFormed made
      · split at made
        · split at made
          · rcases Option.bind_eq_some_iff.1 made with ⟨⟨files₁, id₁⟩, added, made⟩
            refine ih (wellFormed.addNode ?_ added) made
            rintro _ _ ⟨⟩
            exact ⟨rfl, rfl⟩
          · cases made
        · cases made
      · cases made

theorem content_of_nodeOf {entry : TreeEntry} {directory parent : NodeId} {node : Node}
    {entries : List (EntryName × NodeId)} (made : nodeOf entry directory = some node)
    (content : node.content = .directory parent entries) : parent = directory ∧ entries = [] := by
  unfold nodeOf at made
  split at made <;> cases made <;> cases content
  exact ⟨rfl, rfl⟩

/-- Only a directory leads on to something. -/
theorem isDirectory_of_walk_eq_ok {links : Nat} {here id : NodeId} {component : Component}
    {rest : List Component} (walked : files.walk links here (component :: rest) = .ok id) :
    files.IsDirectory here := by
  rw [walk] at walked
  split at walked
  · rename_i parent entries content
    exact ⟨parent, entries, content⟩
  · cases walked

theorem WellFormed.place {directory : NodeId} {name : EntryName} {entry : TreeEntry}
    (wellFormed : files.WellFormed)
    (placed : files.place directory name entry = some files') : files'.WellFormed := by
  unfold FileSystem.place at placed
  split at placed
  · split at placed
    · rcases Option.bind_eq_some_iff.1 placed with ⟨id, -, placed⟩
      rcases Option.bind_eq_some_iff.1 placed with ⟨node, found, placed⟩
      have relinked : (files.setNode id { node with links := node.links + 1 }).WellFormed := by
        apply wellFormed.setNode found
        · exact fun stays => stays
        · exact fun _ _ content => wellFormed.inOrder found content
      exact relinked.addName placed
    · cases placed
  · rename_i node made
    split at placed
    · rename_i id walked
      rcases Option.map_eq_some_iff.1 placed with ⟨old, found, rfl⟩
      apply wellFormed.setNode found
      · intro stays
        simp only [overwritten, stays, if_true]
        rwa [Node.isDirectory] at stays ⊢
      · intro parent entries content
        simp only [overwritten] at content
        split at content
        · exact wellFormed.inOrder found content
        · rcases content_of_nodeOf made content with ⟨rfl, rfl⟩
          exact ⟨isDirectory_of_walk_eq_ok walked, List.nodup_nil⟩
    · rcases Option.map_eq_some_iff.1 placed with ⟨⟨files₁, id⟩, added, rfl⟩
      exact wellFormed.addNode (fun _ _ => content_of_nodeOf made) added

theorem WellFormed.add {entry : TreeEntry} (wellFormed : files.WellFormed)
    (added : files.add entry = some files') : files'.WellFormed := by
  rcases Option.bind_eq_some_iff.1 added with ⟨⟨files₁, directory⟩, made, placed⟩
  have wellFormed₁ := wellFormed.makeDirectories made
  dsimp only at placed
  split at placed
  · split at placed
    · exact wellFormed₁.place placed
    · cases placed
  · cases placed

/-- Every file system that is built from entries is well-formed. -/
theorem wellFormed_of_ofEntries_eq_some {owner group : UInt32} {entries : List TreeEntry}
    (built : ofEntries owner group entries = some files) : files.WellFormed := by
  have kept : ∀ {start : FileSystem}, start.WellFormed →
      entries.foldlM FileSystem.add start = some files → files.WellFormed := by
    clear built
    intro start wellFormed built
    induction entries generalizing start with
    | nil =>
        cases built
        exact wellFormed
    | cons entry entries ih =>
        rw [List.foldlM_cons] at built
        rcases Option.bind_eq_some_iff.1 built with ⟨next, added, built⟩
        exact ih (wellFormed.add added) built
  exact kept (wellFormed_bare owner group) built

end FileQuery.FileSystem
