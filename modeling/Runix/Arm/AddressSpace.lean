import Runix.Arm.TranslationTables

/-!
# Address spaces of kernel-arm

`AddressSpace` of `process.rs`: a level-1 table copied from the active one, lower tables made
on demand, and a ledger of everything the space allocated or adopted.  A call carries the
answers of the allocator to the pages it may ask for, none for a null pointer.
-/

namespace Runix.Arm

open Lib.Extents Function

inductive AddressSpaceError
  | vaOutsidePrivateRegion
  | vaMisaligned
  | outOfMemory
deriving DecidableEq

def AddressSpaceError.message : AddressSpaceError → String
  | .vaOutsidePrivateRegion => "virtual address is outside the process-private region"
  | .vaMisaligned => "virtual address is not 4 KiB-aligned"
  | .outOfMemory => "out of memory for a page or translation table"

/-- The source keeps the tables in a `BTreeSet`; only membership and the elements matter. -/
structure AddressSpace where
  root : Nat
  ownedTables : List Nat
  seededRoot : Nat
  ownedPages : List Nat
  ownedBlocks : List (Nat × Nat)
deriving DecidableEq

/-- The memory and the space during a call, with the pages the allocator has handed out. -/
structure MapState where
  memory : PhysMemory
  space : AddressSpace
  handed : List Nat

/-- What the allocator answers a mapping call: the pages for the two tables and for the data,
and whether the list of pages could grow. -/
structure Supply where
  second : Option Nat
  third : Option Nat
  frame : Option Nat
  reserve : Bool

def Supply.pages (supply : Supply) : List Nat :=
  (supply.second.toList ++ supply.third.toList) ++ supply.frame.toList

namespace MapState

variable (state : MapState)

/-- A page from the allocator is zeroed. -/
def allocPage (answer : Option Nat) : Except AddressSpaceError Nat × MapState :=
  match answer with
  | none => (.error .outOfMemory, state)
  | some page =>
    (.ok page, { state with
      memory := fill state.memory (frameAt page) 0
      handed := state.handed ++ [page] })

/-- The second half of `descend`: a new table behind the entry. -/
def growTable (table index : Nat) (answer : Option Nat) : Except AddressSpaceError Nat × MapState :=
  match state.allocPage answer with
  | (.error error, state) => (.error error, state)
  | (.ok fresh, state) =>
    (.ok fresh, { state with
      memory := update state.memory (entryPtr table index) (tableDescriptor fresh)
      space := { state.space with ownedTables := state.space.ownedTables ++ [fresh] } })

def descend (table index : Nat) (answer : Option Nat) : Except AddressSpaceError Nat × MapState :=
  let descriptor := state.memory (entryPtr table index)
  if descKind descriptor = descTableOrPage ∧ descAddr descriptor ∈ state.space.ownedTables then
    (.ok (descAddr descriptor), state)
  else state.growTable table index answer

def leafTable (va : Nat) (supply : Supply) : Except AddressSpaceError Nat × MapState :=
  match state.descend state.space.root (tableIndex va 30) supply.second with
  | (.error error, state) => (.error error, state)
  | (.ok second, state) => state.descend second (tableIndex va 21) supply.third

/-- The end of `map_private_page_with`: a new frame behind the leaf entry. -/
def placeFrame (leaf va permissions : Nat) (supply : Supply) :
    Except AddressSpaceError Nat × MapState :=
  if !supply.reserve then (.error .outOfMemory, state)
  else
    match state.allocPage supply.frame with
    | (.error error, state) => (.error error, state)
    | (.ok frame, state) =>
      (.ok frame, { state with
        memory := update state.memory (entryPtr leaf (tableIndex va 12))
          (normal4KibPageDescriptor frame permissions)
        space := { state.space with ownedPages := state.space.ownedPages ++ [frame] } })

/-- The frame that was mapped. -/
def mapPrivatePageWith (va permissions : Nat) (supply : Supply) :
    Except AddressSpaceError Nat × MapState :=
  if va % granule4Kib ≠ 0 then (.error .vaMisaligned, state)
  else if ¬ (privateRegionBase ≤ va ∧ va < privateRegionEnd) then
    (.error .vaOutsidePrivateRegion, state)
  else
    match state.leafTable va supply with
    | (.error error, state) => (.error error, state)
    | (.ok leaf, state) => state.placeFrame leaf va permissions supply

def mapPrivatePage (va : Nat) (supply : Supply) : Except AddressSpaceError Nat × MapState :=
  state.mapPrivatePageWith va (apEl0Rw ||| uxn ||| pxn) supply

def mmioDescriptor (pa : Nat) (writable : Bool) : Nat :=
  normal4KibPageDescriptor pa ((if writable then apEl0Rw else apEl0Ro) ||| uxn ||| pxn)

def mapMmioPage (va pa : Nat) (writable : Bool) (supply : Supply) :
    Except AddressSpaceError Unit × MapState :=
  if va % granule4Kib ≠ 0 ∨ pa % granule4Kib ≠ 0 then (.error .vaMisaligned, state)
  else if ¬ (privateRegionBase ≤ va ∧ va < privateRegionEnd) then
    (.error .vaOutsidePrivateRegion, state)
  else
    match state.leafTable va supply with
    | (.error error, state) => (.error error, state)
    | (.ok leaf, state) =>
      (.ok (), { state with
        memory := update state.memory (entryPtr leaf (tableIndex va 12))
          (mmioDescriptor pa writable) })

end MapState

namespace AddressSpace

/-- The new root takes the words of the active table. -/
def new (memory : PhysMemory) (activeRoot : Nat) (answer : Option Nat) :
    Except AddressSpaceError AddressSpace × PhysMemory :=
  match answer with
  | none => (.error .outOfMemory, memory)
  | some root =>
    (.ok {
        root := root
        ownedTables := [root]
        seededRoot := activeRoot
        ownedPages := []
        ownedBlocks := [] },
      copy (fill memory (frameAt root) 0) activeRoot (frameAt root))

def adoptBlock (space : AddressSpace) (pa pages : Nat) (reserve : Bool) :
    Except AddressSpaceError Unit × AddressSpace :=
  if !reserve then (.error .outOfMemory, space)
  else (.ok (), { space with ownedBlocks := space.ownedBlocks ++ [(pa, pages)] })

def IsLive (space : AddressSpace) (activeRoot : Nat) : Prop :=
  space.root = activeRoot

instance (space : AddressSpace) (activeRoot : Nat) : Decidable (space.IsLive activeRoot) := by
  unfold IsLive
  infer_instance

def pageDescriptor (memory : PhysMemory) (space : AddressSpace) (va : Nat) : Option Nat :=
  let first := memory (entryPtr space.root (tableIndex va 30))
  if descKind first ≠ descTableOrPage then none
  else if descAddr first ∉ space.ownedTables then none
  else
    let second := memory (entryPtr (descAddr first) (tableIndex va 21))
    if descKind second ≠ descTableOrPage then none
    else if descAddr second ∉ space.ownedTables then none
    else
      let third := memory (entryPtr (descAddr second) (tableIndex va 12))
      if descKind third = descTableOrPage then some third else none

end AddressSpace

/-! ## What a mapping call does -/

structure Directory where
  second : Option Nat
  third : Nat → Option Nat

def windowPage (second third : Nat) : Nat :=
  windowIndex * 2 ^ 18 + second * 2 ^ 9 + third

/-- The tables of a space, word by word.  The level-1 entries other than the window's are the
kernel's; `mapped` gives the descriptor last written for a page. -/
structure Tables (kernel : Nat → Nat) (memory : PhysMemory) (space : AddressSpace)
    (directory : Directory) (mapped : Nat → Option Nat) : Prop where
  owned : PageSet space.ownedTables
  root : space.root ∈ space.ownedTables
  second : ∀ table, directory.second = some table →
    table ∈ space.ownedTables ∧ table ≠ space.root
  third : ∀ index table, directory.third index = some table →
    table ∈ space.ownedTables ∧ table ≠ space.root ∧ directory.second ≠ some table
  single : ∀ i j table, directory.third i = some table → directory.third j = some table → i = j
  linked : ∀ index table, directory.third index = some table → directory.second ≠ none
  window : memory (entryPtr space.root windowIndex) =
    (directory.second.map tableDescriptor).getD 0
  shared : ∀ index < tableEntries, index ≠ windowIndex →
    memory (entryPtr space.root index) = kernel index
  middle : ∀ table, directory.second = some table → ∀ index < tableEntries,
    memory (entryPtr table index) = ((directory.third index).map tableDescriptor).getD 0
  leaves : ∀ i table, directory.third i = some table → ∀ index < tableEntries,
    memory (entryPtr table index) = (mapped (windowPage i index)).getD 0
  kinds : ∀ page descriptor, mapped page = some descriptor →
    descKind descriptor = descTableOrPage
  reached : ∀ page descriptor, mapped page = some descriptor →
    ∃ i < tableEntries, ∃ j < tableEntries, page = windowPage i j ∧ directory.third i ≠ none

namespace Tables

variable {kernel : Nat → Nat} {memory : PhysMemory} {space : AddressSpace}
  {directory : Directory} {mapped : Nat → Option Nat}

variable (tables : Tables kernel memory space directory mapped)

include tables

theorem frame {after : PhysMemory} (same : ∀ table ∈ space.ownedTables, ∀ index < tableEntries,
      after (entryPtr table index) = memory (entryPtr table index)) :
    Tables kernel after space directory mapped :=
  { tables with
    window := (same _ tables.root _ (by decide)).trans tables.window
    shared := fun index bound other =>
      (same _ tables.root _ bound).trans (tables.shared index bound other)
    middle := fun table linked index bound =>
      (same _ (tables.second table linked).1 _ bound).trans (tables.middle table linked index bound)
    leaves := fun i table linked index bound =>
      (same _ (tables.third i table linked).1 _ bound).trans
        (tables.leaves i table linked index bound) }

theorem fill_apart {page : Nat}
    (away : ∀ table ∈ space.ownedTables, (frameAt page).Apart (frameAt table)) :
    Tables kernel (fill memory (frameAt page) 0) space directory mapped := by
  apply tables.frame
  intro table owned index bound
  exact fill_elsewhere _ _ ((away table owned).symm.not_holds (entryPtr_held table bound))

theorem entry_elsewhere {table other index j : Nat} (owned : table ∈ space.ownedTables)
    (bound : index < tableEntries) (listed : other ∈ space.ownedTables) (different : other ≠ table)
    (small : j < tableEntries) (words : PhysMemory) (descriptor : Nat) :
    update words (entryPtr table index) descriptor (entryPtr other j) =
      words (entryPtr other j) :=
  update_of_ne
    (entryPtr_ne_of_apart (tables.owned.apart listed owned different) small bound) _ _

theorem link_second (none : directory.second = none) {fresh : Nat}
    (aligned : fresh % granule4Kib = 0) (bounded : fresh < 2 ^ 48)
    (away : ∀ table ∈ space.ownedTables, (frameAt fresh).Apart (frameAt table)) :
    Tables kernel
      (update (fill memory (frameAt fresh) 0) (entryPtr space.root windowIndex)
        (tableDescriptor fresh))
      { space with ownedTables := space.ownedTables ++ [fresh] }
      { directory with second := some fresh } mapped := by
  have unlinked : ∀ index, directory.third index = .none := by
    intro index
    cases linked : directory.third index with
    | none => rfl
    | some table => exact absurd none (tables.linked index table linked)
  have rootAway := away space.root tables.root
  have zeroed := tables.fill_apart away
  refine {
    owned := tables.owned.add aligned bounded away
    root := List.mem_append_left _ tables.root
    second := ?_
    third := ?_
    single := tables.single
    linked := fun _ _ _ => by simp
    window := update_self ..
    shared := ?_
    middle := ?_
    leaves := ?_
    kinds := tables.kinds
    reached := tables.reached }
  · rintro table linked
    cases linked
    exact ⟨by simp, frameAt_ne_of_apart rootAway⟩
  · intro index table linked
    rw [unlinked] at linked
    cases linked
  · intro index bound other
    rw [update_of_ne (entryPtr_ne_of_index other)]
    exact zeroed.shared index bound other
  · intro table linked index bound
    cases linked
    rw [update_of_ne (entryPtr_ne_of_apart rootAway bound (by decide)), unlinked]
    exact fill_held _ _ (entryPtr_held fresh bound)
  · intro i table linked
    rw [unlinked] at linked
    cases linked

theorem link_third {table index : Nat} (linked : directory.second = some table)
    (bound : index < tableEntries) (none : directory.third index = none) {fresh : Nat}
    (aligned : fresh % granule4Kib = 0) (bounded : fresh < 2 ^ 48)
    (away : ∀ table ∈ space.ownedTables, (frameAt fresh).Apart (frameAt table)) :
    Tables kernel
      (update (fill memory (frameAt fresh) 0) (entryPtr table index)
        (tableDescriptor fresh))
      { space with ownedTables := space.ownedTables ++ [fresh] }
      { directory with third := update directory.third index (some fresh) } mapped := by
  obtain ⟨tableOwned, tableRoot⟩ := tables.second table linked
  have fresher : fresh ∉ space.ownedTables := fun owned =>
    frameAt_ne_of_apart (away fresh owned) rfl
  have zeroed := tables.fill_apart away
  have unmapped : ∀ j < tableEntries, mapped (windowPage index j) = .none := by
    intro j small
    cases found : mapped (windowPage index j) with
    | none => rfl
    | some descriptor =>
      obtain ⟨i, iBound, k, kBound, same, some⟩ := tables.reached _ _ found
      have equal : i = index := by
        unfold windowPage tableEntries at *
        omega
      exact absurd (equal ▸ none) some
  refine {
    owned := tables.owned.add aligned bounded away
    root := List.mem_append_left _ tables.root
    second := fun other same => ⟨List.mem_append_left _ (tables.second other same).1,
      (tables.second other same).2⟩
    third := ?_
    single := ?_
    linked := fun _ _ _ => by simp [linked]
    window := ?_
    shared := ?_
    middle := ?_
    leaves := ?_
    kinds := tables.kinds
    reached := ?_ }
  · intro i other same
    rcases update_eq_some same with ⟨-, rfl⟩ | ⟨-, same⟩
    · exact ⟨by simp, fun root => fresher (root ▸ tables.root),
        fun second => fresher (tables.second fresh second).1⟩
    · obtain ⟨owned, away, notSecond⟩ := tables.third i other same
      exact ⟨List.mem_append_left _ owned, away, notSecond⟩
  · intro i j other first second
    rcases update_eq_some first with ⟨a, rfl⟩ | ⟨-, first⟩ <;>
      rcases update_eq_some second with ⟨b, same⟩ | ⟨-, second⟩
    · rw [a, b]
    · exact absurd (tables.third j fresh second).1 fresher
    · exact absurd (tables.third i other first).1 (same ▸ fresher)
    · exact tables.single i j other first second
  · rw [tables.entry_elsewhere tableOwned bound tables.root tableRoot.symm (by decide)]
    exact zeroed.window
  · intro i small other
    rw [tables.entry_elsewhere tableOwned bound tables.root tableRoot.symm small]
    exact zeroed.shared i small other
  · intro other same i small
    rw [linked] at same
    cases same
    dsimp only
    by_cases own : i = index
    · rw [own, update_self, update_self]
      rfl
    · rw [update_of_ne (entryPtr_ne_of_index own), update_of_ne own]
      exact zeroed.middle table linked i small
  · intro i other same j small
    rcases update_eq_some same with ⟨rfl, rfl⟩ | ⟨-, same⟩
    · have different := entryPtr_ne_of_apart (away table tableOwned) small bound
      rw [update_of_ne different, unmapped j small]
      exact fill_held _ _ (entryPtr_held fresh small)
    · obtain ⟨owned, -, notSecond⟩ := tables.third i other same
      have apart : other ≠ table := by
        rintro rfl
        exact notSecond linked
      rw [tables.entry_elsewhere tableOwned bound owned apart small]
      exact zeroed.leaves i other same j small
  · intro page descriptor found
    obtain ⟨i, iBound, j, jBound, same, some⟩ := tables.reached page descriptor found
    refine ⟨i, iBound, j, jBound, same, ?_⟩
    dsimp only
    by_cases own : i = index
    · rw [own, update_self]
      simp
    · rw [update_of_ne own]
      exact some

theorem set_leaf {i table index : Nat} (linked : directory.third i = some table)
    (small : i < tableEntries) (bound : index < tableEntries) {descriptor : Nat}
    (kind : descKind descriptor = descTableOrPage) :
    Tables kernel (update memory (entryPtr table index) descriptor) space directory
      (update mapped (windowPage i index) (some descriptor)) := by
  obtain ⟨owned, notRoot, notSecond⟩ := tables.third i table linked
  refine { tables with
    window := ?_
    shared := ?_
    middle := ?_
    leaves := ?_
    kinds := ?_
    reached := ?_ }
  · rw [tables.entry_elsewhere owned bound tables.root notRoot.symm (by decide)]
    exact tables.window
  · intro j jBound other
    rw [tables.entry_elsewhere owned bound tables.root notRoot.symm jBound]
    exact tables.shared j jBound other
  · intro other second j jBound
    have different : other ≠ table := by
      rintro rfl
      exact notSecond second
    rw [tables.entry_elsewhere owned bound (tables.second other second).1 different jBound]
    exact tables.middle other second j jBound
  · intro j other third k kBound
    by_cases own : j = i
    · rw [own, linked] at third
      cases third
      rw [own]
      by_cases same : k = index
      · rw [same, update_self, update_self]
        rfl
      have page : windowPage i k ≠ windowPage i index := by
        unfold windowPage
        omega
      rw [update_of_ne (entryPtr_ne_of_index same), update_of_ne page]
      exact tables.leaves i table linked k kBound
    · have different : other ≠ table := by
        rintro rfl
        exact own (tables.single j i other third linked)
      have page : windowPage j k ≠ windowPage i index := by
        unfold windowPage tableEntries at *
        omega
      rw [tables.entry_elsewhere owned bound (tables.third j other third).1 different kBound,
        update_of_ne page]
      exact tables.leaves j other third k kBound
  · intro page found same
    rcases update_eq_some same with ⟨-, rfl⟩ | ⟨-, same⟩
    · exact kind
    · exact tables.kinds page found same
  · intro page found same
    rcases update_eq_some same with ⟨own, -⟩ | ⟨-, same⟩
    · exact ⟨i, small, index, bound, own, by simp [linked]⟩
    · exact tables.reached page found same

end Tables

end Runix.Arm
