import Runix.Arm.AddressSpaces

/-!
# Every run of the address spaces

One step keeps the tables of every space and the separation of everything in use; so after any
run `page_descriptor` gives the last mapping, translations of others are untouched, and
`destroy` gives back exactly what the space was given.
-/

namespace Runix.Arm

open Lib.Extents Lib.Runs Function List SpaceWorld AddressSpace

namespace SpaceWorld

variable {boot : PhysMemory} {kernelRoot : Nat} {world : SpaceWorld}

variable {id : Nat}

theorem get_set {spaces : List (Option AddressSpace)} (bound : id < spaces.length)
    (space : Option AddressSpace) (other : Nat) :
    (spaces.set id space)[other]?.join = if other = id then space else spaces[other]?.join := by
  by_cases same : other = id
  · rw [same, if_pos rfl, List.getElem?_set_self bound]
    rfl
  · rw [if_neg same, List.getElem?_set_ne (Ne.symm same)]

variable {space : AddressSpace}

section

variable (found : world.get id = some space)

include found

theorem get_lt : id < world.spaces.length :=
  (List.getElem?_eq_some_iff.mp (get_eq_some.mp found)).1

theorem live_set (after : Option AddressSpace) :
    (heldBy (some space) ++
        ((world.spaces.set id after).flatMap heldBy ++ world.others)).Perm
      (heldBy after ++ world.live) := by
  have spaces := flatMap_set_perm heldBy after (get_eq_some.mp found)
  unfold live
  rw [← append_assoc, ← append_assoc]
  exact spaces.append_right world.others

theorem live_grows {after : AddressSpace} {more : List Extent}
    (grown : after.extents.Perm (more ++ space.extents)) :
    ((world.spaces.set id (some after)).flatMap heldBy ++ world.others).Perm
      (more ++ world.live) := by
  have replaced := live_set found (some after)
  have held : heldBy (some after) = after.extents := rfl
  have moved := replaced.trans (grown.append_right world.live)
  have swapped : (more ++ space.extents ++ world.live).Perm
      (space.extents ++ (more ++ world.live)) := by
    rw [append_assoc]
    exact perm_append_comm_assoc _ _ _
  exact (perm_append_left_iff space.extents).mp (moved.trans swapped)

theorem live_shrinks :
    (space.extents ++ ((world.spaces.set id none).flatMap heldBy ++ world.others)).Perm
      world.live :=
  live_set found none

end

namespace Lawful

theorem take_free (lawful : world.Lawful boot kernelRoot) (more : List Extent) {live : List Extent}
    (free : ∀ extent ∈ more, world.Free extent) (apart : Separate more)
    (grown : live.Perm (more ++ world.live)) : Separate live ∧ ∀ extent ∈ live, InHeap extent := by
  constructor
  · apply Separate.perm _ grown.symm
    rw [separate_append]
    exact ⟨apart, lawful.separate, fun first given second used =>
      (free first given).unused second used⟩
  · intro extent listed
    rcases mem_append.mp (grown.mem_iff.mp listed) with given | used
    · exact (free extent given).inHeap
    · exact lawful.inHeap extent used

theorem tables_kept (lawful : world.Lawful boot kernelRoot) (found : world.get id = some space)
    {memory : PhysMemory}
    (same : ∀ table ∈ space.ownedTables, ∀ address, (frameAt table).Holds address →
      memory address = world.memory address) :
    ∃ directory, Tables (fun index => boot (entryPtr kernelRoot index)) memory space directory
      (world.mapped id) := by
  obtain ⟨directory, tables⟩ := lawful.tables id space found
  refine ⟨directory, tables.frame ?_⟩
  intro table owned index bound
  exact same table owned _ (entryPtr_held table bound)

variable {event : SpaceEvent}

section

variable (lawful : world.Lawful boot kernelRoot) (granted : world.Granted kernelRoot event)
  (found : world.get id = some space) {after : MapState}
  (call : Extends ⟨world.memory, space, []⟩ after event.pages)

include lawful granted found call

/-- What a mapping call on one space leaves alone: the words of another space's tables, and all
that lies outside the heap. -/
theorem call_frame :
    (∀ address, ¬ heap.Holds address → after.memory address = world.memory address) ∧
      ∀ other owner, world.get other = some owner → other ≠ id →
        ∀ table ∈ owner.ownedTables, ∀ address, (frameAt table).Holds address →
          after.memory address = world.memory address := by
  constructor
  · intro address away
    apply call.frame address
    · intro table owned held
      exact away ((lawful.inHeap _ (mem_live found (mem_heldBy_table owned))).held held)
    · intro page given held
      exact away ((granted.pages page given).inHeap.held held)
  · intro other owner get different table owned address held
    apply call.frame address
    · intro mine listed
      exact (apart_of_ne lawful.separate get found different (mem_heldBy_table owned)
        (mem_heldBy_table listed)).not_holds held
    · intro page given
      exact ((granted.pages page given).unused _
        (mem_live get (mem_heldBy_table owned))).symm.not_holds held

theorem put {mapped : Nat → Option Nat}
    (tables : ∃ directory, Tables (fun index => boot (entryPtr kernelRoot index)) after.memory
      after.space directory mapped) : (world.put id after mapped).Lawful boot kernelRoot := by
  obtain ⟨used, part, handed, ledger⟩ := call.ledger
  have bound := get_lt found
  have given : after.handed = used := handed
  have extents : after.space.extents.Perm (used.map frameAt ++ space.extents) := by
    unfold extents
    rw [call.blocks, ← append_assoc, ← map_append]
    exact (ledger.map frameAt).append_right _
  obtain ⟨separate, inHeap⟩ := lawful.take_free (used.map frameAt)
    (by
      intro extent listed
      obtain ⟨page, member, rfl⟩ := mem_map.mp listed
      exact granted.pages page (part.subset member))
    (granted.separate.sublist (part.map frameAt)) (live_grows found extents)
  obtain ⟨outside, others⟩ := lawful.call_frame granted found call
  have get : ∀ other, (world.put id after mapped).get other =
      if other = id then some after.space else world.get other :=
    fun other => get_set bound (some after.space) other
  refine ⟨separate, inHeap, ?_, ?_, ?_, ?_⟩
  · intro address away
    exact (outside address away).trans (lawful.outside address away)
  · intro other owner member
    rw [get] at member
    dsimp only [SpaceWorld.put]
    by_cases own : other = id
    · rw [if_pos own] at member
      cases member
      rw [own, update_self]
      exact tables
    · rw [if_neg own] at member
      rw [update_of_ne own]
      exact lawful.tables_kept member (others other owner member own)
  · intro other owner member
    rw [get] at member
    dsimp only [SpaceWorld.put]
    by_cases own : other = id
    · rw [if_pos own] at member
      cases member
      rw [own, update_self, given]
      exact extents.trans ((lawful.ledger id space found).append_left _)
    · rw [if_neg own] at member
      rw [update_of_ne own]
      exact lawful.ledger other owner member
  · intro other late
    dsimp only [SpaceWorld.put] at late ⊢
    rw [length_set] at late
    rw [update_of_ne (Nat.ne_of_gt (Nat.lt_of_lt_of_le bound late))]
    exact lawful.unborn other late

end

section

variable (lawful : world.Lawful boot kernelRoot)

include lawful

theorem new (kernel : KernelTables boot kernelRoot)
    {answer : Option Nat} (granted : world.Granted kernelRoot (.new answer)) :
    (world.step (.new answer)).Lawful boot kernelRoot := by
  cases answer with
  | none => exact lawful
  | some root =>
    have free : world.Free (frameAt root) := granted.pages root (by simp [SpaceEvent.pages])
    have seeded : world.activeRoot = kernelRoot := granted.seeded _ rfl
    have live : ((world.spaces ++ [some (AddressSpace.mk root [root] kernelRoot [] [])]).flatMap
        heldBy ++ world.others).Perm ([frameAt root] ++ world.live) := by
      simp only [flatMap_append, append_assoc]
      have single : [some (AddressSpace.mk root [root] kernelRoot [] [])].flatMap heldBy =
          [frameAt root] := rfl
      exact perm_append_comm_assoc _ _ _
    obtain ⟨separate, inHeap⟩ := lawful.take_free [frameAt root]
      (by
        intro extent listed
        rw [mem_singleton.mp listed]
        exact free) (by simp [Separate]) live
    have elsewhere : ∀ address, ¬ (frameAt root).Holds address →
        copy (fill world.memory (frameAt root) 0) kernelRoot (frameAt root) address =
          world.memory address := by
      intro address away
      rw [copy_elsewhere _ _ away, fill_elsewhere _ _ away]
    have get : ∀ id space,
        (world.spaces ++ [some (AddressSpace.mk root [root] kernelRoot [] [])])[id]?.join =
          some space →
        (id = world.spaces.length ∧ space = AddressSpace.mk root [root] kernelRoot [] []) ∨
          (id ≠ world.spaces.length ∧ world.get id = some space) := by
      intro id space found
      rcases Nat.lt_trichotomy id world.spaces.length with less | same | more
      · rw [List.getElem?_append_left less] at found
        exact .inr ⟨Nat.ne_of_lt less, found⟩
      · subst same
        simp only [List.getElem?_concat_length, Option.join_some, Option.some.injEq] at found
        exact .inl ⟨rfl, found.symm⟩
      · rw [List.getElem?_eq_none (by simp; omega)] at found
        cases found
    dsimp only [step, AddressSpace.new]
    rw [seeded]
    refine ⟨separate, inHeap, ?_, ?_, ?_, ?_⟩
    · intro address away
      dsimp only
      rw [elsewhere address fun held => away (free.inHeap.held held)]
      exact lawful.outside address away
    · intro id space found
      rcases get id space found with ⟨rfl, rfl⟩ | ⟨-, old⟩
      · rw [lawful.unborn _ (Nat.le_refl _)]
        exact ⟨_, kernel.new_tables lawful.outside free.inHeap⟩
      apply lawful.tables_kept old
      intro table owned address held
      apply elsewhere
      exact (free.unused _ (mem_live old (mem_heldBy_table owned))).symm.not_holds held
    · intro id space found
      dsimp only
      rcases get id space found with ⟨rfl, rfl⟩ | ⟨other, old⟩
      · rw [update_self]
        exact List.Perm.refl _
      · rw [update_of_ne other]
        exact lawful.ledger id space old
    · intro id late
      simp only [length_append, length_singleton] at late
      exact lawful.unborn id (by omega)

theorem adopts {pa pages : Nat}
    (found : world.get id = some space) (free : world.Free ⟨pa, pages * frameBytes⟩) :
    ({ world with
      spaces := world.spaces.set id
        (some { space with ownedBlocks := space.ownedBlocks ++ [(pa, pages)] })
      acquired := update world.acquired id
        (⟨pa, pages * frameBytes⟩ :: world.acquired id) } : SpaceWorld).Lawful boot kernelRoot := by
  have bound := get_lt found
  have extents : ({ space with ownedBlocks := space.ownedBlocks ++ [(pa, pages)] } :
      AddressSpace).extents.Perm ([⟨pa, pages * frameBytes⟩] ++ space.extents) := by
    unfold extents
    simp only [map_append, map_cons, map_nil, ← append_assoc]
    exact perm_append_comm
  obtain ⟨separate, inHeap⟩ := lawful.take_free [⟨pa, pages * frameBytes⟩]
    (by
      intro extent listed
      rw [mem_singleton.mp listed]
      exact free) (by simp [Separate]) (live_grows found extents)
  have get := get_set bound
    (some { space with ownedBlocks := space.ownedBlocks ++ [(pa, pages)] })
  refine ⟨separate, inHeap, lawful.outside, ?_, ?_, ?_⟩
  · intro other owner member
    have member : _ = some owner := (get other).symm.trans member
    by_cases own : other = id
    · rw [if_pos own] at member
      cases member
      subst own
      obtain ⟨directory, tables⟩ := lawful.tables other space found
      exact ⟨directory, { tables with }⟩
    · rw [if_neg own] at member
      exact lawful.tables other owner member
  · intro other owner member
    have member : _ = some owner := (get other).symm.trans member
    dsimp only
    by_cases own : other = id
    · rw [if_pos own] at member
      cases member
      rw [own, update_self]
      exact extents.trans ((lawful.ledger id space found).append_left [_])
    · rw [if_neg own] at member
      rw [update_of_ne own]
      exact lawful.ledger other owner member
  · intro other late
    rw [length_set] at late
    exact lawful.unborn other late

theorem removed (found : world.get id = some space) {others : List Extent}
    (live : ((world.spaces.set id none).flatMap heldBy ++ others).Subperm world.live) :
    ({ world with spaces := world.spaces.set id none, others := others } :
      SpaceWorld).Lawful boot kernelRoot := by
  have bound := get_lt found
  have get : ∀ other owner, (world.spaces.set id none)[other]?.join = some owner →
      world.get other = some owner := by
    intro other owner member
    rw [get_set bound] at member
    by_cases own : other = id
    · rw [if_pos own] at member
      cases member
    · rw [if_neg own] at member
      exact member
  refine ⟨?_, ?_, lawful.outside, ?_, ?_, ?_⟩
  · obtain ⟨same, perm, sub⟩ := live
    exact (lawful.separate.sublist sub).perm perm
  · exact fun extent listed => lawful.inHeap extent (live.subset listed)
  · exact fun other owner member => lawful.tables other owner (get other owner member)
  · exact fun other owner member => lawful.ledger other owner (get other owner member)
  · intro other late
    rw [length_set] at late
    exact lawful.unborn other late

protected theorem step (kernel : KernelTables boot kernelRoot) {event : SpaceEvent}
    (granted : world.Granted kernelRoot event) : (world.step event).Lawful boot kernelRoot := by
  cases event with
  | loadRoot root => exact { lawful with }
  | new answer => exact lawful.new kernel granted
  | mapPrivatePageWith id va permissions supply =>
    dsimp only [step]
    cases found : world.get id with
    | none => exact lawful
    | some space =>
      obtain ⟨directory, tables⟩ := lawful.tables id space found
      obtain ⟨call, grown⟩ := MapState.mapPrivatePageWith_spec ⟨world.memory, space, []⟩
        tables va permissions (lawful.pages_free granted found)
      exact lawful.put granted found call grown
  | mapMmioPage id va pa writable supply =>
    dsimp only [step]
    cases found : world.get id with
    | none => exact lawful
    | some space =>
      obtain ⟨directory, tables⟩ := lawful.tables id space found
      obtain ⟨call, grown⟩ := MapState.mapMmioPage_spec ⟨world.memory, space, []⟩
        tables va pa writable (lawful.pages_free granted found)
      exact lawful.put granted found call grown
  | adoptBlock id pa pages reserve =>
    dsimp only [step]
    cases found : world.get id with
    | none => exact lawful
    | some space =>
      cases reserve with
      | false => exact lawful
      | true => exact lawful.adopts found (granted.block id pa pages true rfl)
  | destroy id reserve =>
    dsimp only [step]
    cases found : world.get id with
    | none => exact lawful
    | some space =>
      have shrinks := live_shrinks found
      dsimp only
      split
      · apply lawful.removed found
        exact (sublist_append_right _ _).subperm.trans shrinks.subperm
      apply lawful.removed found
      have moved : ((world.spaces.set id none).flatMap heldBy ++
          (space.extents ++ world.others)).Perm world.live := by
        exact (perm_append_comm_assoc _ _ _).trans shrinks
      exact moved.subperm
  | allocate extent =>
    have free : world.Free extent := granted.other extent rfl
    have live : (world.spaces.flatMap heldBy ++ (extent :: world.others)).Perm
        ([extent] ++ world.live) := perm_middle
    obtain ⟨separate, inHeap⟩ := lawful.take_free [extent]
      (by
        intro other listed
        rw [mem_singleton.mp listed]
        exact free) (by simp [Separate]) live
    exact ⟨separate, inHeap, lawful.outside, lawful.tables, lawful.ledger, lawful.unborn⟩
  | deallocate extent =>
    have part : (world.spaces.flatMap heldBy ++ world.others.erase extent).Sublist world.live :=
      (erase_sublist).append_left _
    exact ⟨lawful.separate.sublist part,
      fun other listed => lawful.inHeap other (part.subset listed), lawful.outside,
      lawful.tables, lawful.ledger, lawful.unborn⟩

end

variable (lawful : world.Lawful boot kernelRoot) (kernel : KernelTables boot kernelRoot)
  (granted : world.Granted kernelRoot event)

include lawful kernel granted

/-- A step writes nothing outside the heap, and nothing in the tables of a space it is not a
call on. -/
theorem step_frame :
    (∀ address, ¬ heap.Holds address →
        (world.step event).memory address = world.memory address) ∧
      ∀ id space, world.get id = some space → event.target ≠ some id →
        ∀ table ∈ space.ownedTables, ∀ address, (frameAt table).Holds address →
          (world.step event).memory address = world.memory address := by
  constructor
  · intro address away
    rw [(lawful.step kernel granted).outside address away, lawful.outside address away]
  intro id space found other table owned address held
  cases event with
  | loadRoot root => rfl
  | new answer =>
    cases answer with
    | none => rfl
    | some root =>
      have free : world.Free (frameAt root) := granted.pages root (by simp [SpaceEvent.pages])
      have away : ¬ (frameAt root).Holds address :=
        (free.unused _ (mem_live found (mem_heldBy_table owned))).symm.not_holds held
      dsimp only [step, AddressSpace.new]
      rw [copy_elsewhere _ _ away, fill_elsewhere _ _ away]
  | mapPrivatePageWith target va permissions supply =>
    dsimp only [step]
    cases targeted : world.get target with
    | none => rfl
    | some mine =>
      obtain ⟨directory, tables⟩ := lawful.tables target mine targeted
      obtain ⟨call, -⟩ := MapState.mapPrivatePageWith_spec ⟨world.memory, mine, []⟩
        tables va permissions (lawful.pages_free granted targeted)
      exact (lawful.call_frame granted targeted call).2 id space found
        (fun same => other (congrArg some same.symm)) table owned address held
  | mapMmioPage target va pa writable supply =>
    dsimp only [step]
    cases targeted : world.get target with
    | none => rfl
    | some mine =>
      obtain ⟨directory, tables⟩ := lawful.tables target mine targeted
      obtain ⟨call, -⟩ := MapState.mapMmioPage_spec ⟨world.memory, mine, []⟩
        tables va pa writable (lawful.pages_free granted targeted)
      exact (lawful.call_frame granted targeted call).2 id space found
        (fun same => other (congrArg some same.symm)) table owned address held
  | adoptBlock target pa pages reserve =>
    dsimp only [step]
    cases world.get target with
    | none => rfl
    | some mine => cases reserve <;> rfl
  | destroy target reserve =>
    dsimp only [step]
    cases world.get target with
    | none => rfl
    | some mine =>
      dsimp only
      split <;> rfl
  | allocate extent => rfl
  | deallocate extent => rfl

/-- A step changes no translation of the kernel's and none of a space it is not a call on. -/
theorem step_walks (va : Nat) :
    walk (world.step event).memory kernelRoot va = walk world.memory kernelRoot va ∧
      ∀ id space, world.get id = some space → event.target ≠ some id →
        walk (world.step event).memory space.root va = walk world.memory space.root va := by
  obtain ⟨outside, tables⟩ := lawful.step_frame kernel granted
  have seen : ∀ va, ∀ address ∈ visited boot kernelRoot va,
      world.memory address = boot address :=
    fun va address read => lawful.outside address (kernel.outside va address read)
  constructor
  · have first := walk_congr fun address read => seen va address read
    have second : walk (world.step event).memory kernelRoot va = walk boot kernelRoot va := by
      apply walk_congr
      intro address read
      exact (outside address (kernel.outside va address read)).trans (seen va address read)
    exact second.trans first.symm
  · intro id space found other
    obtain ⟨directory, own⟩ := lawful.tables id space found
    apply walk_congr
    intro address read
    rcases own.visited_owned (fun _ _ => rfl) seen va read with ⟨table, owned, held⟩ | shared
    · exact tables id space found other table owned address held
    · exact outside address (kernel.outside va address shared)

end Lawful

theorem run_lawful (kernel : KernelTables boot kernelRoot) (events : List SpaceEvent)
    (granted : EveryStep step (fun world => world.Granted kernelRoot) (start boot kernelRoot)
      events) : (run step (start boot kernelRoot) events).Lawful boot kernelRoot := by
  have preserved : ∀ (world : SpaceWorld) (event : SpaceEvent), world.Lawful boot kernelRoot →
      world.Granted kernelRoot event → (world.step event).Lawful boot kernelRoot :=
    fun world event lawful granted => lawful.step kernel granted
  exact run_guarded step preserved events _ (start_lawful boot kernelRoot) granted

theorem Lawful.kernel_foreign (lawful : world.Lawful boot kernelRoot)
    (kernel : KernelTables boot kernelRoot) (found : world.get id = some space) (index : Nat)
    (bound : index < tableEntries)
    (kind : descKind (boot (entryPtr kernelRoot index)) = descTableOrPage) :
    descAddr (boot (entryPtr kernelRoot index)) ∉ space.ownedTables := by
  intro owned
  have own : tableIndex (index * 2 ^ 30) 30 = index := by
    rw [tableIndex_eq]
    unfold tableEntries at *
    omega
  have read : entryPtr (descAddr (boot (entryPtr kernelRoot index)))
      (tableIndex (index * 2 ^ 30) 21) ∈ visited boot kernelRoot (index * 2 ^ 30) := by
    unfold visited
    rw [own]
    dsimp only
    rw [if_neg (not_not.mpr kind)]
    split <;> simp
  apply kernel.outside _ _ read
  exact (lawful.inHeap _ (mem_live found (mem_heldBy_table owned))).held
    (entryPtr_held _ (tableIndex_lt _ 21))

/-- After every run `page_descriptor` gives the last mapping of the page in that space; the next
call changes no translation of the kernel's or of another space; and what two spaces hold lies
apart. -/
theorem mappings_isolated (boot : PhysMemory) (kernelRoot : Nat)
    (kernel : KernelTables boot kernelRoot) (events : List SpaceEvent)
    (granted : EveryStep step (fun world => world.Granted kernelRoot) (start boot kernelRoot)
      events) :
    (∀ id space, (run step (start boot kernelRoot) events).get id = some space → ∀ va,
      space.pageDescriptor (run step (start boot kernelRoot) events).memory va =
        (run step (start boot kernelRoot) events).mapped id (pageOf va)) ∧
    (∀ event, (run step (start boot kernelRoot) events).Granted kernelRoot event → ∀ va,
      walk ((run step (start boot kernelRoot) events).step event).memory kernelRoot va =
          walk (run step (start boot kernelRoot) events).memory kernelRoot va ∧
        ∀ id space, (run step (start boot kernelRoot) events).get id = some space →
          event.target ≠ some id →
          walk ((run step (start boot kernelRoot) events).step event).memory space.root va =
            walk (run step (start boot kernelRoot) events).memory space.root va) ∧
    ∀ i j first second, (run step (start boot kernelRoot) events).get i = some first →
      (run step (start boot kernelRoot) events).get j = some second → i ≠ j →
      ∀ page ∈ first.ownedTables ++ first.ownedPages,
        ∀ other ∈ second.ownedTables ++ second.ownedPages,
          (frameAt page).Apart (frameAt other) := by
  have lawful := run_lawful kernel events granted
  refine ⟨?_, ?_, ?_⟩
  · intro id space found va
    obtain ⟨directory, tables⟩ := lawful.tables id space found
    exact tables.pageDescriptor_eq (lawful.kernel_foreign kernel found) va
  · intro event next va
    exact lawful.step_walks kernel next va
  · intro i j first second one two different page mine other yours
    exact apart_of_ne lawful.separate one two different
      (mem_append_left _ (mem_map_of_mem mine))
      (mem_append_left _ (mem_map_of_mem yours))

theorem blank_kernel : KernelTables (fun _ => 0) 0x40080000 where
  window := rfl
  outside := by
    intro va address read held
    have only : address = entryPtr 0x40080000 (tableIndex va 30) := by
      simpa [visited, descTableOrPage] using read
    have small := tableIndex_lt va 30
    unfold Extent.Holds heap heapStart heapSize at held
    unfold entryPtr at only
    unfold tableEntries at small
    dsimp only at held
    omega

def onePageRun : List SpaceEvent :=
  [.new (some 0x41000000),
    .mapPrivatePageWith 0 0x80000000 (apEl0Rw ||| uxn ||| pxn)
      ⟨some 0x41001000, some 0x41002000, some 0x41003000, true⟩]

theorem one_page_granted :
    EveryStep step (fun world => world.Granted 0x40080000) (start (fun _ => 0) 0x40080000)
      onePageRun := by
  unfold onePageRun
  rw [every_step_cons, every_step_cons]
  refine ⟨?_, ?_, every_step_nil _ _ _⟩
  · refine ⟨by decide, by decide, ?_, ?_, fun _ _ => rfl⟩
    · nofun
    · nofun
  · refine ⟨by decide, by decide, ?_, ?_, ?_⟩
    · nofun
    · nofun
    · nofun

def onePageSpace : AddressSpace where
  root := 0x41000000
  ownedTables := [0x41000000, 0x41001000, 0x41002000]
  seededRoot := 0x40080000
  ownedPages := [0x41003000]
  ownedBlocks := []

theorem one_page_found :
    (run step (start (fun _ => 0) 0x40080000) onePageRun).get 0 = some onePageSpace := by
  decide

theorem one_page_mapped :
    KernelTables (fun _ => 0) 0x40080000 ∧
      onePageSpace.pageDescriptor
          (run step (start (fun _ => 0) 0x40080000) onePageRun).memory 0x80000000 =
        some (normal4KibPageDescriptor 0x41003000 (apEl0Rw ||| uxn ||| pxn)) :=
  ⟨blank_kernel,
    (mappings_isolated (fun _ => 0) 0x40080000 blank_kernel onePageRun one_page_granted).1 0
      onePageSpace one_page_found 0x80000000⟩

/-- If the list of the plan can be allocated, `destroy` of a space that is not live succeeds
and frees exactly what the space was given, each extent once; that lies in the heap and apart
from everything else in use. -/
theorem destroy_frees_acquired (boot : PhysMemory) (kernelRoot : Nat)
    (kernel : KernelTables boot kernelRoot) (events : List SpaceEvent)
    (granted : EveryStep step (fun world => world.Granted kernelRoot) (start boot kernelRoot)
      events) (id : Nat) (space : AddressSpace)
    (found : (run step (start boot kernelRoot) events).get id = some space)
    (idle : ¬ space.IsLive (run step (start boot kernelRoot) events).activeRoot) :
    ∃ plan, space.destroy (run step (start boot kernelRoot) events).activeRoot true =
        .ok (⟨plan.length, (plan.map Extent.bytes).sum⟩, plan) ∧
      plan.Perm ((run step (start boot kernelRoot) events).acquired id) ∧ Separate plan ∧
      (∀ extent ∈ plan, InHeap extent) ∧
      (∀ other owner, (run step (start boot kernelRoot) events).get other = some owner →
        other ≠ id → ∀ extent ∈ plan, ∀ held ∈ owner.extents, extent.Apart held) ∧
      ∀ extent ∈ plan, ∀ held ∈ (run step (start boot kernelRoot) events).others,
        extent.Apart held := by
  have lawful := run_lawful kernel events granted
  have inHeap : ∀ extent ∈ space.extents, InHeap extent :=
    fun extent held => lawful.inHeap extent (mem_live found held)
  have whole := lawful.separate.perm (live_shrinks found).symm
  obtain ⟨separate, -, across⟩ := separate_append.mp whole
  obtain ⟨plan, destroyed, perm⟩ := destroy_ok idle separate inHeap
  refine ⟨plan, destroyed, perm.trans (lawful.ledger id space found), separate.perm perm.symm,
    fun extent listed => inHeap extent (perm.mem_iff.mp listed), ?_, ?_⟩
  · intro other owner member different extent listed held mine
    exact apart_of_ne lawful.separate found member (Ne.symm different)
      (perm.mem_iff.mp listed) mine
  · intro extent listed held used
    exact across extent (perm.mem_iff.mp listed) held (mem_append_right _ used)

theorem one_page_freed :
    ¬ onePageSpace.IsLive 0x40080000 ∧
      ∃ plan, onePageSpace.destroy 0x40080000 true =
          .ok (⟨plan.length, (plan.map Extent.bytes).sum⟩, plan) ∧
        plan.Perm ((run step (start (fun _ => 0) 0x40080000) onePageRun).acquired 0) := by
  have idle : ¬ onePageSpace.IsLive 0x40080000 := by decide
  obtain ⟨plan, destroyed, perm, -⟩ :=
    destroy_frees_acquired (fun _ => 0) 0x40080000 blank_kernel onePageRun one_page_granted 0
      onePageSpace one_page_found idle
  exact ⟨idle, plan, destroyed, perm⟩

/-- Without memory for the list of the plan nothing of the same space is freed. -/
theorem one_page_leaked :
    EveryStep step (fun world => world.Granted 0x40080000) (start (fun _ => 0) 0x40080000)
        onePageRun ∧
      (run step (start (fun _ => 0) 0x40080000) onePageRun).get 0 = some onePageSpace ∧
      ¬ onePageSpace.IsLive (run step (start (fun _ => 0) 0x40080000) onePageRun).activeRoot ∧
      onePageSpace.destroy (run step (start (fun _ => 0) 0x40080000) onePageRun).activeRoot
        false = .error (.badLedger (.badLength 0)) := by
  have idle : ¬ onePageSpace.IsLive
      (run step (start (fun _ => 0) 0x40080000) onePageRun).activeRoot := by decide
  exact ⟨one_page_granted, one_page_found, idle, onePageSpace.destroy_without_memory idle⟩

end SpaceWorld

end Runix.Arm
