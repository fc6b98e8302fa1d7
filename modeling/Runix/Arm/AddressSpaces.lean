import Runix.Arm.Mappings
import Runix.Arm.Reclaim
import Runix.Lib.Runs

/-!
# Any number of address spaces

Spaces are made, mapped, given blocks and destroyed in any order, while other allocations of the
heap come and go.  The allocator hands out extents of the heap that nobody holds; a space is
made while the kernel's table is loaded.

Every space owns its tables and its pages alone.  A call on one space writes to that space's
tables and to pages that were free, so no other space and no table of the kernel changes, and
what a space holds is what its ledger says.
-/

namespace Runix.Arm

open Lib.Extents Lib.Runs List

def heap : Extent := ⟨heapStart, heapSize⟩

/-- The kernel's own tables: the entry of the private window is empty, and the walk from the
root reads nothing in the heap. -/
structure KernelTables (boot : PhysMemory) (kernelRoot : Nat) : Prop where
  window : boot (entryPtr kernelRoot windowIndex) = 0
  outside : ∀ va, ∀ address ∈ visited boot kernelRoot va, ¬ heap.Holds address

/-- The spaces by their number, none for one that is gone, and the other extents in use.
`mapped` is the descriptor last mapped at a page of a space; `acquired` is what the allocator
gave to a space or it adopted. -/
structure SpaceWorld where
  memory : PhysMemory
  spaces : List (Option AddressSpace)
  others : List Extent
  activeRoot : Nat
  mapped : Nat → Nat → Option Nat
  acquired : Nat → List Extent

inductive SpaceEvent
  | loadRoot (root : Nat)
  | new (answer : Option Nat)
  | mapPrivatePageWith (id va permissions : Nat) (supply : Supply)
  | mapMmioPage (id va pa : Nat) (writable : Bool) (supply : Supply)
  | adoptBlock (id pa pages : Nat) (reserve : Bool)
  | destroy (id : Nat) (reserve : Bool)
  | allocate (extent : Extent)
  | deallocate (extent : Extent)

def SpaceEvent.target : SpaceEvent → Option Nat
  | .mapPrivatePageWith id _ _ _ => some id
  | .mapMmioPage id _ _ _ _ => some id
  | .adoptBlock id _ _ _ => some id
  | .destroy id _ => some id
  | _ => none

def SpaceEvent.pages : SpaceEvent → List Nat
  | .new answer => answer.toList
  | .mapPrivatePageWith _ _ _ supply => supply.pages
  | .mapMmioPage _ _ _ _ supply => supply.pages
  | _ => []

def heldBy (space : Option AddressSpace) : List Extent :=
  (space.map AddressSpace.extents).getD []

namespace SpaceWorld

variable (world : SpaceWorld)

def start (boot : PhysMemory) (kernelRoot : Nat) : SpaceWorld where
  memory := boot
  spaces := []
  others := []
  activeRoot := kernelRoot
  mapped := fun _ _ => none
  acquired := fun _ => []

def live : List Extent :=
  world.spaces.flatMap heldBy ++ world.others

def get (id : Nat) : Option AddressSpace :=
  world.spaces[id]?.join

def put (id : Nat) (after : MapState) (mapped : Nat → Option Nat) : SpaceWorld :=
  { world with
    memory := after.memory
    spaces := world.spaces.set id (some after.space)
    mapped := Function.update world.mapped id mapped
    acquired := Function.update world.acquired id
      (after.handed.map frameAt ++ world.acquired id) }

def step : SpaceEvent → SpaceWorld
  | .loadRoot root => { world with activeRoot := root }
  | .new answer =>
    match AddressSpace.new world.memory world.activeRoot answer with
    | (.error _, _) => world
    | (.ok space, memory) =>
      { world with
        memory := memory
        spaces := world.spaces ++ [some space]
        acquired := Function.update world.acquired world.spaces.length
          [frameAt space.root] }
  | .mapPrivatePageWith id va permissions supply =>
    match world.get id with
    | none => world
    | some space =>
      let result := MapState.mapPrivatePageWith ⟨world.memory, space, []⟩ va permissions supply
      world.put id result.2 (MapState.mappedAfter (world.mapped id) va
        (fun frame => normal4KibPageDescriptor frame permissions) result.1)
  | .mapMmioPage id va pa writable supply =>
    match world.get id with
    | none => world
    | some space =>
      let result := MapState.mapMmioPage ⟨world.memory, space, []⟩ va pa writable supply
      world.put id result.2 (MapState.mappedAfter (world.mapped id) va
        (fun _ => MapState.mmioDescriptor pa writable) result.1)
  | .adoptBlock id pa pages reserve =>
    match world.get id with
    | none => world
    | some space =>
      match space.adoptBlock pa pages reserve with
      | (.error _, _) => world
      | (.ok _, space) =>
        { world with
          spaces := world.spaces.set id (some space)
          acquired := Function.update world.acquired id
            (⟨pa, pages * frameBytes⟩ :: world.acquired id) }
  | .destroy id reserve =>
    match world.get id with
    | none => world
    | some space =>
      -- `destroy` takes the space either way; what it does not free stays in use
      match space.destroy world.activeRoot reserve with
      | .ok _ => { world with spaces := world.spaces.set id none }
      | .error _ =>
        { world with
          spaces := world.spaces.set id none
          others := space.extents ++ world.others }
  | .allocate extent => { world with others := extent :: world.others }
  | .deallocate extent => { world with others := world.others.erase extent }

/-- The allocator can hand the extent out. -/
structure Free (extent : Extent) : Prop where
  inHeap : InHeap extent
  unused : ∀ held ∈ world.live, extent.Apart held

instance (extent : Extent) : Decidable (world.Free extent) :=
  decidable_of_iff (InHeap extent ∧ ∀ held ∈ world.live, extent.Apart held)
    ⟨fun ⟨inHeap, unused⟩ => ⟨inHeap, unused⟩, fun ⟨inHeap, unused⟩ => ⟨inHeap, unused⟩⟩

/-- What is asked of the allocator, and that spaces are made under the kernel's table. -/
structure Granted (kernelRoot : Nat) (event : SpaceEvent) : Prop where
  pages : ∀ page ∈ event.pages, world.Free (frameAt page)
  separate : Separate (event.pages.map frameAt)
  block : ∀ id pa pages reserve, event = .adoptBlock id pa pages reserve →
    world.Free ⟨pa, pages * frameBytes⟩
  other : ∀ extent, event = .allocate extent → world.Free extent
  seeded : ∀ answer, event = .new answer → world.activeRoot = kernelRoot

end SpaceWorld

theorem flatMap_set_perm {α β : Type*} (held : α → List β) (replacement : α) {items : List α}
    {index : Nat} {item : α} (found : items[index]? = some item) :
    (held item ++ (items.set index replacement).flatMap held).Perm
      (held replacement ++ items.flatMap held) := by
  induction items generalizing index with
  | nil => simp at found
  | cons first rest ih =>
    cases index with
    | zero =>
      have same : first = item := by simpa using found
      subst same
      exact perm_append_comm_assoc _ _ _
    | succ index =>
      have later := ih (show rest[index]? = some item by simpa using found)
      apply (perm_append_comm_assoc _ _ _).trans
      apply (later.append_left (held first)).trans
      exact perm_append_comm_assoc _ _ _

theorem InHeap.held {extent : Extent} (inside : InHeap extent) {address : Nat}
    (holds : extent.Holds address) : heap.Holds address := by
  have low := inside.low
  have high := inside.high
  unfold heapEnd at high
  unfold Extent.Holds heap at *
  dsimp only
  omega

theorem InHeap.usable {page : Nat} (inside : InHeap (frameAt page)) :
    page % granule4Kib = 0 ∧ page < 2 ^ 48 := by
  have high := inside.high
  have small : heapEnd < 2 ^ 48 := by decide
  refine ⟨inside.aligned, ?_⟩
  unfold frameAt at high
  dsimp only at high
  omega

theorem KernelTables.entry_outside {boot : PhysMemory} {kernelRoot : Nat}
    (kernel : KernelTables boot kernelRoot) {index : Nat} (bound : index < tableEntries) :
    ¬ heap.Holds (entryPtr kernelRoot index) := by
  have own : tableIndex (index * 2 ^ 30) 30 = index := by
    rw [tableIndex_eq]
    unfold tableEntries at *
    omega
  apply kernel.outside (index * 2 ^ 30)
  unfold visited
  rw [own]
  dsimp only
  split
  · simp
  · split <;> simp

theorem KernelTables.new_tables {boot : PhysMemory} {kernelRoot : Nat}
    (kernel : KernelTables boot kernelRoot) {memory : PhysMemory}
    (outside : ∀ address, ¬ heap.Holds address → memory address = boot address) {root : Nat}
    (inHeap : InHeap (frameAt root)) :
    Tables (fun index => boot (entryPtr kernelRoot index))
      (copy (fill memory (frameAt root) 0) kernelRoot (frameAt root))
      { root := root, ownedTables := [root], seededRoot := kernelRoot, ownedPages := [],
        ownedBlocks := [] } ⟨none, fun _ => none⟩ fun _ => none := by
  have entry : ∀ index < tableEntries,
      copy (fill memory (frameAt root) 0) kernelRoot (frameAt root) (entryPtr root index) =
        boot (entryPtr kernelRoot index) := by
    intro index bound
    have away := kernel.entry_outside bound
    have source : kernelRoot + (entryPtr root index - (frameAt root).addr) =
        entryPtr kernelRoot index := by
      unfold entryPtr frameAt
      dsimp only
      omega
    have elsewhere : ¬ (frameAt root).Holds (entryPtr kernelRoot index) :=
      fun held => away (inHeap.held held)
    rw [copy_held _ _ (entryPtr_held root bound), source, fill_elsewhere _ _ elsewhere]
    exact outside _ away
  constructor
  · constructor
    · intro table single
      rw [mem_singleton.mp single]
      exact inHeap.usable
    · simp [Separate]
  · simp
  · simp
  · simp
  · simp
  · simp
  · exact (entry windowIndex (by decide)).trans kernel.window
  · exact fun index bound other => entry index bound
  · simp
  · simp
  · simp
  · simp

theorem mem_heldBy_table {space : AddressSpace} {table : Nat} (owned : table ∈ space.ownedTables) :
    frameAt table ∈ heldBy (some space) :=
  mem_append_left _ (mem_map_of_mem (mem_append_left _ owned))

namespace SpaceWorld

variable {boot : PhysMemory} {kernelRoot : Nat} {world : SpaceWorld}

theorem get_eq_some {id : Nat} {space : AddressSpace} :
    world.get id = some space ↔ world.spaces[id]? = some (some space) := by
  unfold get
  rw [Option.join_eq_some_iff]

theorem mem_live {id : Nat} {space : AddressSpace} (found : world.get id = some space)
    {extent : Extent} (held : extent ∈ heldBy (some space)) : extent ∈ world.live := by
  apply mem_append_left
  rw [mem_flatMap]
  exact ⟨some space, mem_of_getElem? (get_eq_some.mp found), held⟩

theorem apart_of_ne (separate : Separate world.live) {i j : Nat} {first second : AddressSpace}
    (one : world.get i = some first) (two : world.get j = some second) (different : i ≠ j)
    {a b : Extent} (held : a ∈ heldBy (some first)) (other : b ∈ heldBy (some second)) :
    a.Apart b := by
  have spaces := (separate_append.mp separate).1
  have across := (pairwise_flatMap.mp spaces).2
  rw [pairwise_iff_getElem] at across
  obtain ⟨iBound, iFound⟩ := List.getElem?_eq_some_iff.mp (get_eq_some.mp one)
  obtain ⟨jBound, jFound⟩ := List.getElem?_eq_some_iff.mp (get_eq_some.mp two)
  rcases Nat.lt_or_gt_of_ne different with less | more
  · exact across i j iBound jBound less a (by rw [iFound]; exact held) b
      (by rw [jFound]; exact other)
  · exact (across j i jBound iBound more b (by rw [jFound]; exact other) a
      (by rw [iFound]; exact held)).symm

structure Lawful (boot : PhysMemory) (kernelRoot : Nat) (world : SpaceWorld) : Prop where
  separate : Separate world.live
  inHeap : ∀ extent ∈ world.live, InHeap extent
  outside : ∀ address, ¬ heap.Holds address → world.memory address = boot address
  tables : ∀ id space, world.get id = some space → ∃ directory,
    Tables (fun index => boot (entryPtr kernelRoot index)) world.memory space directory
      (world.mapped id)
  ledger : ∀ id space, world.get id = some space → space.extents.Perm (world.acquired id)
  unborn : ∀ id, world.spaces.length ≤ id → world.mapped id = fun _ => none

theorem start_lawful (boot : PhysMemory) (kernelRoot : Nat) :
    (start boot kernelRoot).Lawful boot kernelRoot where
  separate := List.Pairwise.nil
  inHeap := by simp [start, live]
  outside := fun _ _ => rfl
  tables := by simp [start, get]
  ledger := by simp [start, get]
  unborn := fun _ _ => rfl

namespace Lawful

theorem pages_free (lawful : world.Lawful boot kernelRoot) {event : SpaceEvent}
    (granted : world.Granted kernelRoot event) {id : Nat} {space : AddressSpace}
    (found : world.get id = some space) : PageSet (event.pages ++ space.ownedTables) where
  usable := by
    intro page listed
    rcases mem_append.mp listed with given | owned
    · exact (granted.pages page given).inHeap.usable
    · exact (lawful.inHeap _ (mem_live found (mem_heldBy_table owned))).usable
  separate := by
    obtain ⟨directory, tables⟩ := lawful.tables id space found
    rw [map_append, separate_append]
    refine ⟨granted.separate, tables.owned.separate, ?_⟩
    intro first given second owned
    obtain ⟨page, listed, rfl⟩ := mem_map.mp given
    obtain ⟨table, held, rfl⟩ := mem_map.mp owned
    exact (granted.pages page listed).unused _ (mem_live found (mem_heldBy_table held))

end Lawful

end SpaceWorld

end Runix.Arm
