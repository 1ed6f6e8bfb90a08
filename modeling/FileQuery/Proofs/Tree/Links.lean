import FileQuery.Proofs.Tree.WellFormed

/-!
# Where paths lead

`Leads` says where a path leads from a directory: each component is a step, and a symbolic link on
the way is replaced by its target, which is read from the directory that holds the link, or from the
root. It mentions no limit on the number of links. A path that can be walked leads where the walk
ends, and it leads nowhere else.

The path of an entry of a directory leads where the entry alone leads from that directory. If the
entry is a link, this is where its target leads, and in a well-formed file system that is no link.
-/

namespace FileQuery

open Text (Bytes)

namespace FileSystem

/-- A directory holds a node under a name. -/
def Holds (files : FileSystem) (here : NodeId) (name : Bytes) (entry : NodeId) : Prop :=
  ∃ parent entries, (files.node? here).map Node.content = some (.directory parent entries) ∧
    entry? entries name = some entry

/-- Where a path leads from a directory, with the links on the way followed. -/
inductive Leads (files : FileSystem) : NodeId → List Component → NodeId → Prop where
  | arrived {here : NodeId} : Leads files here [] here
  | here {here id : NodeId} {rest : List Component} (isDirectory : files.IsDirectory here)
      (onward : Leads files here rest id) : Leads files here (.here :: rest) id
  | parent {here parent id : NodeId} {entries : List (EntryName × NodeId)}
      {rest : List Component}
      (content : (files.node? here).map Node.content = some (.directory parent entries))
      (onward : Leads files parent rest id) : Leads files here (.parent :: rest) id
  | child {here child id : NodeId} {name : Bytes} {rest : List Component}
      (holds : files.Holds here name child)
      (noLink : ∀ target, (files.node? child).map Node.content ≠ some (.link target))
      (onward : Leads files child rest id) : Leads files here (.child name :: rest) id
  | follow {here link id : NodeId} {name : Bytes} {target : RawPath} {rest : List Component}
      (holds : files.Holds here name link)
      (isLink : (files.node? link).map Node.content = some (.link target))
      (onward : Leads files (files.startOf here target) (RawPath.components target ++ rest) id) :
      Leads files here (.child name :: rest) id

variable {files : FileSystem} {here id id' : NodeId} {path front : List Component}

theorem Holds.unique {name : Bytes} {entry entry' : NodeId} (holds : files.Holds here name entry)
    (holds' : files.Holds here name entry') : entry = entry' := by
  rcases holds with ⟨parent, entries, content, named⟩
  rcases holds' with ⟨parent', entries', content', named'⟩
  rw [content] at content'
  cases content'
  exact Option.some.inj (named.symm.trans named')

theorem leads_of_walk_eq_ok {links : Nat} (walked : files.walk links here path = .ok id) :
    files.Leads here path id := by
  fun_induction walk files links here path with
  | case1 links here =>
      cases walked
      exact .arrived
  | case2 links here rest parent entries content ih =>
      exact .here ⟨parent, entries, content⟩ (ih walked)
  | case3 links here rest parent entries content ih => exact .parent content (ih walked)
  | case4 links here rest parent entries content name absent => cases walked
  | case5 here rest parent entries content name child named target isLink => cases walked
  | case6 here rest parent entries content name child named target isLink links ih =>
      exact .follow ⟨parent, entries, content, named⟩ isLink (ih walked)
  | case7 links here rest parent entries content name child named noLink ih =>
      exact .child ⟨parent, entries, content, named⟩ noLink (ih walked)
  | case8 links here component rest noDirectory => cases walked

theorem Leads.unique (leads : files.Leads here path id) (leads' : files.Leads here path id') :
    id = id' := by
  induction leads with
  | arrived =>
      cases leads'
      rfl
  | here _ _ ih =>
      cases leads' with
      | here _ onward' => exact ih onward'
  | parent content _ ih =>
      cases leads' with
      | parent content' onward' =>
          rw [content] at content'
          cases content'
          exact ih onward'
  | child holds noLink _ ih =>
      cases leads' with
      | child holds' _ onward' =>
          cases holds.unique holds'
          exact ih onward'
      | follow holds' isLink' _ =>
          cases holds.unique holds'
          exact absurd isLink' (noLink _)
  | follow holds isLink _ ih =>
      cases leads' with
      | child holds' noLink' _ =>
          cases holds.unique holds'
          exact absurd isLink (noLink' _)
      | follow holds' isLink' onward' =>
          cases holds.unique holds'
          rw [isLink] at isLink'
          cases isLink'
          exact ih onward'

/-- A path in two parts leads on from where its first part leads. -/
theorem Leads.exists_of_append (leads : files.Leads here (front ++ path) id) :
    ∃ between, files.Leads here front between ∧ files.Leads between path id := by
  generalize whole : front ++ path = components at leads
  induction leads generalizing front with
  | arrived =>
      rcases List.append_eq_nil_iff.1 whole with ⟨rfl, rfl⟩
      exact ⟨_, .arrived, .arrived⟩
  | here isDirectory onward ih =>
      rcases List.append_eq_cons_iff.1 whole with ⟨rfl, rfl⟩ | ⟨front, rfl, rfl⟩
      · exact ⟨_, .arrived, .here isDirectory onward⟩
      · rcases ih rfl with ⟨between, first, second⟩
        exact ⟨between, .here isDirectory first, second⟩
  | parent content onward ih =>
      rcases List.append_eq_cons_iff.1 whole with ⟨rfl, rfl⟩ | ⟨front, rfl, rfl⟩
      · exact ⟨_, .arrived, .parent content onward⟩
      · rcases ih rfl with ⟨between, first, second⟩
        exact ⟨between, .parent content first, second⟩
  | child holds noLink onward ih =>
      rcases List.append_eq_cons_iff.1 whole with ⟨rfl, rfl⟩ | ⟨front, rfl, rfl⟩
      · exact ⟨_, .arrived, .child holds noLink onward⟩
      · rcases ih rfl with ⟨between, first, second⟩
        exact ⟨between, .child holds noLink first, second⟩
  | follow holds isLink onward ih =>
      rcases List.append_eq_cons_iff.1 whole with ⟨rfl, rfl⟩ | ⟨front, rfl, rfl⟩
      · exact ⟨_, .arrived, .follow holds isLink onward⟩
      · rcases ih (List.append_assoc _ _ _) with ⟨between, first, second⟩
        exact ⟨between, .follow holds isLink first, second⟩

theorem IsDirectory.content_ne_link (isDirectory : files.IsDirectory id) (target : RawPath) :
    (files.node? id).map Node.content ≠ some (.link target) := by
  rcases isDirectory with ⟨parent, entries, content⟩
  rw [content]
  rintro ⟨⟩

/-- A path that leads on from where it starts does not end at a link. The target of a link has a
component, so a walk that follows one goes on from there. -/
theorem Leads.content_ne_link (wellFormed : files.WellFormed) (leads : files.Leads here path id)
    (start : path = [] → ∀ target, (files.node? here).map Node.content ≠ some (.link target)) :
    ∀ target, (files.node? id).map Node.content ≠ some (.link target) := by
  induction leads with
  | arrived => exact start rfl
  | here isDirectory _ ih => exact ih fun _ => isDirectory.content_ne_link
  | parent content _ ih =>
      exact ih fun _ => (wellFormed.parent_isDirectory _ _ _ content).content_ne_link
  | child _ noLink _ ih => exact ih fun _ => noLink
  | follow _ _ _ ih =>
      apply ih
      intro none
      have pieces := List.map_eq_nil_iff.1 (List.append_eq_nil_iff.1 none).1
      exact absurd pieces (Text.split_ne_nil slash _)

/-- Where an entry of a directory ends: at its own node, or where its target leads if it is a
link, which may be through further links. -/
inductive EndsAt (files : FileSystem) (here entry : NodeId) : NodeId → Prop where
  | itself (noLink : ∀ target, (files.node? entry).map Node.content ≠ some (.link target)) :
      EndsAt files here entry entry
  | linked {target : RawPath} {final : NodeId}
      (isLink : (files.node? entry).map Node.content = some (.link target))
      (leads : files.Leads (files.startOf here target) (RawPath.components target) final) :
      EndsAt files here entry final

theorem Leads.endsAt {entry final : NodeId} {name : Bytes}
    (leads : files.Leads here [.child name] final) (holds : files.Holds here name entry) :
    files.EndsAt here entry final := by
  cases leads with
  | child holds' noLink onward =>
      cases holds.unique holds'
      cases onward
      exact .itself noLink
  | follow holds' isLink onward =>
      cases holds.unique holds'
      rw [List.append_nil] at onward
      exact .linked isLink onward

end FileSystem

namespace RawPath

theorem component_bytes (name : EntryName) : component name.bytes = .child name.bytes := by
  have valid := name.valid
  simp only [isEntryName, Bool.and_eq_true, Bool.not_eq_true', List.isEmpty_eq_false_iff,
    bne_iff_ne] at valid
  rw [component, if_neg (not_or.2 ⟨valid.1.1.1.1, valid.1.2⟩), if_neg valid.2]

theorem components_append_slash_append (front : RawPath) (name : EntryName) :
    components (front ++ slash :: name.bytes) = components front ++ [.child name.bytes] := by
  rw [components, components, pieces, pieces,
    Text.split_append_cons front (notMem_slash name), List.map_append,
    List.map_singleton, component_bytes]

end RawPath

namespace FileSystem

variable {files : FileSystem} {directory : RawPath} {id final : NodeId}

/-- The path of an entry leads where the entry leads from its directory. -/
theorem leads_of_locate_join_eq_ok {name : EntryName} (located : files.locate directory = .ok id)
    (found : files.locate (directory.join name.bytes) = .ok final) :
    files.Leads id [.child name.bytes] final := by
  rcases locate_eq_ok_iff.1 located with ⟨-, nonempty, -, walked⟩
  rcases locate_eq_ok_iff.1 found with ⟨-, -, -, walkedOn⟩
  have toDirectory := leads_of_walk_eq_ok walked
  have toEntry := leads_of_walk_eq_ok walkedOn
  have start : files.startOf files.workingDirectory (directory.join name.bytes) =
      files.startOf files.workingDirectory directory := by
    rw [startOf, startOf, RawPath.isAbsolute, RawPath.isAbsolute, RawPath.join, List.append_assoc,
      List.head?_append_of_ne_nil directory nonempty]
  rw [start] at toEntry
  by_cases takes : directory.TakesSlash
  · rw [RawPath.join, RawPath.separator_of_takesSlash takes, List.append_assoc,
      List.singleton_append, RawPath.components_append_slash_append] at toEntry
    rcases toEntry.exists_of_append with ⟨between, first, second⟩
    rwa [toDirectory.unique first]
  · have ending : directory.getLast? = some slash := by
      by_contra other
      exact takes ⟨nonempty, other⟩
    rcases List.getLast?_eq_some_iff.1 ending with ⟨front, rfl⟩
    rw [RawPath.components_append_slash] at toDirectory
    rw [RawPath.join, RawPath.separator_of_not_takesSlash takes, List.append_nil,
      List.append_assoc, List.singleton_append, RawPath.components_append_slash_append] at toEntry
    rcases toDirectory.exists_of_append with ⟨between, first, stay⟩
    rcases toEntry.exists_of_append with ⟨between', first', second⟩
    cases first.unique first'
    cases stay with
    | here _ arrived =>
        cases arrived
        exact second

end FileSystem

end FileQuery
