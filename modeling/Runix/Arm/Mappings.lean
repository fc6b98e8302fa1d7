import Runix.Arm.AddressSpace
import Mathlib.Data.List.Perm.Subperm

/-!
# What a mapping call does

However a call of `map_private_page_with` or `map_mmio_page` ends, the tables of the space stay
as the walk expects them, the ledger gains exactly the pages the allocator handed out, and
memory changes only in the space's own tables and in those pages.  The mapping of the page
changes if the call succeeds.
-/

namespace Runix.Arm

open Lib.Extents Function List

theorem PageSet.subperm {first second : List Nat} (set : PageSet second)
    (part : first.Subperm second) : PageSet first where
  usable := fun page listed => set.usable page (part.subset listed)
  separate := by
    obtain ⟨same, perm, sub⟩ := part
    have middle : Separate (same.map frameAt) := set.separate.sublist (sub.map frameAt)
    exact middle.perm (perm.map frameAt)

/-- What a call changes, whether it succeeds or fails: `answers` are the pages it may have been
given. -/
structure Extends (before after : MapState) (answers : List Nat) : Prop where
  root : after.space.root = before.space.root
  seeded : after.space.seededRoot = before.space.seededRoot
  blocks : after.space.ownedBlocks = before.space.ownedBlocks
  tables : after.space.ownedTables.Subperm (answers ++ before.space.ownedTables)
  ledger : ∃ used : List Nat, used.Sublist answers ∧ after.handed = before.handed ++ used ∧
    (after.space.ownedTables ++ after.space.ownedPages).Perm
      (used ++ (before.space.ownedTables ++ before.space.ownedPages))
  frame : ∀ address, (∀ table ∈ before.space.ownedTables, ¬ (frameAt table).Holds address) →
    (∀ page ∈ answers, ¬ (frameAt page).Holds address) →
      after.memory address = before.memory address

namespace Extends

variable {before middle after : MapState} {first second : List Nat}

theorem refl (state : MapState) (answers : List Nat) : Extends state state answers where
  root := rfl
  seeded := rfl
  blocks := rfl
  tables := (sublist_append_right _ _).subperm
  ledger := ⟨[], nil_sublist _, (append_nil _).symm, List.Perm.refl _⟩
  frame := fun _ _ _ => rfl

theorem trans (one : Extends before middle first) (two : Extends middle after second) :
    Extends before after (first ++ second) where
  root := two.root.trans one.root
  seeded := two.seeded.trans one.seeded
  blocks := two.blocks.trans one.blocks
  tables := by
    apply two.tables.trans
    apply ((subperm_append_left second).mpr one.tables).trans
    rw [append_assoc]
    exact (perm_append_comm_assoc _ _ _).subperm
  ledger := by
    obtain ⟨used, part, handed, same⟩ := one.ledger
    obtain ⟨more, rest, later, grown⟩ := two.ledger
    refine ⟨used ++ more, part.append rest, ?_, ?_⟩
    · rw [later, handed, append_assoc]
    · apply grown.trans
      apply (same.append_left more).trans
      rw [append_assoc]
      exact perm_append_comm_assoc _ _ _
  frame := by
    intro address away unanswered
    rw [two.frame address, one.frame address away]
    · exact fun page given => unanswered page (mem_append_left _ given)
    · intro table owned
      rcases mem_append.mp (one.tables.subset owned) with given | old
      · exact unanswered table (mem_append_left _ given)
      · exact away table old
    · exact fun page given => unanswered page (mem_append_right _ given)

theorem pages_left (one : Extends before middle first)
    (free : PageSet ((first ++ second) ++ before.space.ownedTables)) :
    PageSet (second ++ middle.space.ownedTables) := by
  apply free.subperm
  apply ((subperm_append_left second).mpr one.tables).trans
  rw [append_assoc]
  exact (perm_append_comm_assoc _ _ _).subperm

end Extends

variable {va : Nat}

namespace MapState

variable {kernel : Nat → Nat} {state : MapState} {directory : Directory}
  {mapped : Nat → Option Nat}

variable {index table : Nat}

theorem descend_follows {found : Nat} (answer : Option Nat)
    (owned : PageSet state.space.ownedTables) (listed : found ∈ state.space.ownedTables)
    (entry : state.memory (entryPtr table index) = tableDescriptor found) :
    state.descend table index answer = (.ok found, state) := by
  obtain ⟨aligned, bounded⟩ := owned.usable found listed
  unfold descend
  dsimp only
  rw [entry, descAddr_tableDescriptor aligned bounded, if_pos]
  exact ⟨descKind_tableDescriptor found, listed⟩

theorem descend_grows (answer : Option Nat) (entry : state.memory (entryPtr table index) = 0) :
    state.descend table index answer = state.growTable table index answer := by
  unfold descend
  rw [entry, if_neg]
  simp [descTableOrPage]

theorem grow_extends (owned : table ∈ state.space.ownedTables) (bound : index < tableEntries)
    (answer : Option Nat) : Extends state (state.growTable table index answer).2 answer.toList := by
  cases answer with
  | none => exact .refl state []
  | some fresh =>
    refine ⟨rfl, rfl, rfl, ?_, ⟨[fresh], List.Sublist.refl _, rfl, ?_⟩, ?_⟩
    · have moved : (state.space.ownedTables ++ [fresh]).Perm ([fresh] ++ state.space.ownedTables) :=
        perm_append_comm
      exact moved.subperm
    · dsimp only [growTable, allocPage]
      rw [append_assoc]
      exact perm_middle
    · intro address away unanswered
      dsimp only [growTable, allocPage]
      rw [update_of_ne, fill_elsewhere]
      · exact unanswered fresh (by simp)
      · rintro rfl
        exact away table owned (entryPtr_held table bound)

/-- A descent follows the entry, or links a new table behind it; `link` is the place of the
directory that belongs to the entry. -/
theorem descend_link (tables : Tables kernel state.memory state.space directory mapped)
    (link : Directory → Option Nat) (owned : table ∈ state.space.ownedTables)
    (bound : index < tableEntries)
    (entry : state.memory (entryPtr table index) = ((link directory).map tableDescriptor).getD 0)
    (listed : ∀ found, link directory = some found → found ∈ state.space.ownedTables)
    (grows : link directory = none → ∀ fresh, fresh % granule4Kib = 0 → fresh < 2 ^ 48 →
      (∀ table ∈ state.space.ownedTables, (frameAt fresh).Apart (frameAt table)) →
      ∃ grown, Tables kernel
          (update (fill state.memory (frameAt fresh) 0) (entryPtr table index)
            (tableDescriptor fresh))
          { state.space with ownedTables := state.space.ownedTables ++ [fresh] } grown mapped ∧
        link grown = some fresh)
    {answer : Option Nat} (free : PageSet (answer.toList ++ state.space.ownedTables)) :
    Extends state (state.descend table index answer).2 answer.toList ∧
      ∃ grown, Tables kernel (state.descend table index answer).2.memory
          (state.descend table index answer).2.space grown mapped ∧
        ∀ next, (state.descend table index answer).1 = .ok next → link grown = some next := by
  cases linked : link directory with
  | some found =>
    rw [linked] at entry
    rw [descend_follows answer tables.owned (listed found linked) entry]
    refine ⟨.refl state _, directory, tables, ?_⟩
    intro next result
    cases result
    exact linked
  | none =>
    rw [linked] at entry
    rw [descend_grows answer entry]
    refine ⟨grow_extends owned bound answer, ?_⟩
    cases answer with
    | none =>
      refine ⟨directory, tables, ?_⟩
      intro next result
      cases result
    | some fresh =>
      obtain ⟨aligned, bounded⟩ := free.usable fresh (by simp)
      obtain ⟨grown, later, reached⟩ := grows linked fresh aligned bounded fun table owned =>
        (separate_cons.mp free.separate).1 _ (mem_map_of_mem owned)
      refine ⟨grown, later, ?_⟩
      intro next result
      cases result
      exact reached

variable {supply : Supply}

theorem leafTable_spec (tables : Tables kernel state.memory state.space directory mapped)
    (window : tableIndex va 30 = windowIndex)
    (free : PageSet (supply.pages ++ state.space.ownedTables)) :
    Extends state (state.leafTable va supply).2
        (supply.second.toList ++ supply.third.toList) ∧
      ∃ grown, Tables kernel (state.leafTable va supply).2.memory
          (state.leafTable va supply).2.space grown mapped ∧
        ∀ leaf, (state.leafTable va supply).1 = .ok leaf →
          grown.third (tableIndex va 21) = some leaf := by
  have tablesFree : PageSet
      ((supply.second.toList ++ supply.third.toList) ++ state.space.ownedTables) := by
    apply free.subperm
    apply List.Sublist.subperm
    exact (sublist_append_left _ _).append_right _
  have firstFree : PageSet (supply.second.toList ++ state.space.ownedTables) := by
    apply tablesFree.subperm
    apply List.Sublist.subperm
    exact (sublist_append_left _ _).append_right _
  -- The first descent leads to the level-2 table of the window, the second to a level-3 table.
  obtain ⟨one, grown, first, reached⟩ := descend_link tables Directory.second tables.root
    (by decide) tables.window (fun found linked => (tables.second found linked).1)
    (fun unlinked fresh aligned bounded away =>
      ⟨_, tables.link_second unlinked aligned bounded away, rfl⟩) firstFree
  unfold leafTable
  rw [window]
  generalize state.descend state.space.root windowIndex supply.second = result at *
  obtain ⟨outcome, middle⟩ := result
  cases outcome with
  | error error =>
    refine ⟨one.trans (.refl middle _), grown, first, ?_⟩
    intro leaf result
    cases result
  | ok second =>
    have linked := reached second rfl
    have bound := tableIndex_lt va 21
    obtain ⟨two, more, later, leaf⟩ := descend_link first (fun d => d.third (tableIndex va 21))
      (first.second second linked).1 bound (first.middle second linked _ bound)
      (fun found listed => (first.third _ found listed).1)
      (fun unlinked fresh aligned bounded away =>
        ⟨_, first.link_third linked bound unlinked aligned bounded away,
          update_self ..⟩) (one.pages_left tablesFree)
    exact ⟨one.trans two, more, later, leaf⟩

def mappedAfter {Result : Type} (mapped : Nat → Option Nat) (va : Nat) (descriptor : Result → Nat) :
    Except AddressSpaceError Result → Nat → Option Nat
  | .error _ => mapped
  | .ok result => update mapped (pageOf va) (some (descriptor result))

theorem pageOf_window (window : tableIndex va 30 = windowIndex) :
    pageOf va = windowPage (tableIndex va 21) (tableIndex va 12) := by
  rw [pageOf_eq, window]
  rfl

theorem store_extends (owned : table ∈ state.space.ownedTables) (bound : index < tableEntries)
    (descriptor : Nat) (answers : List Nat) :
    Extends state
      { state with memory := update state.memory (entryPtr table index) descriptor }
      answers := by
  refine { Extends.refl state answers with frame := ?_ }
  intro address elsewhere unanswered
  dsimp only
  rw [update_of_ne]
  rintro rfl
  exact elsewhere table owned (entryPtr_held table bound)

theorem placeFrame_spec (tables : Tables kernel state.memory state.space directory mapped)
    {leaf : Nat} (window : tableIndex va 30 = windowIndex) (permissions : Nat)
    (linked : directory.third (tableIndex va 21) = some leaf)
    (free : PageSet (supply.frame.toList ++ state.space.ownedTables)) :
    Extends state (state.placeFrame leaf va permissions supply).2 supply.frame.toList ∧
      Tables kernel (state.placeFrame leaf va permissions supply).2.memory
        (state.placeFrame leaf va permissions supply).2.space directory
        (mappedAfter mapped va (fun frame => normal4KibPageDescriptor frame permissions)
          (state.placeFrame leaf va permissions supply).1) := by
  obtain ⟨second, third, answer, reserve⟩ := supply
  cases reserve with
  | false => exact ⟨.refl state _, tables⟩
  | true =>
    cases answer with
    | none => exact ⟨.refl state _, tables⟩
    | some frame =>
      have away : ∀ table ∈ state.space.ownedTables,
          (frameAt frame).Apart (frameAt table) := by
        intro table owned
        exact (separate_cons.mp free.separate).1 _ (mem_map_of_mem owned)
      constructor
      · refine ⟨rfl, rfl, rfl, ?_, ⟨[frame], List.Sublist.refl _, rfl, ?_⟩, ?_⟩
        · exact (sublist_append_right _ _).subperm
        · have moved : ((state.space.ownedTables ++ state.space.ownedPages) ++ [frame]).Perm
              ([frame] ++ (state.space.ownedTables ++ state.space.ownedPages)) :=
            perm_append_comm
          rw [append_assoc] at moved
          exact moved
        · intro address elsewhere unanswered
          have owned := (tables.third _ leaf linked).1
          have kept : update (fill state.memory (frameAt frame) 0)
              (entryPtr leaf (tableIndex va 12)) (normal4KibPageDescriptor frame permissions)
              address = state.memory address := by
            rw [update_of_ne, fill_elsewhere]
            · exact unanswered frame (by simp)
            · rintro rfl
              exact elsewhere leaf owned (entryPtr_held leaf (tableIndex_lt va 12))
          exact kept
      · have set := (tables.fill_apart away).set_leaf linked (tableIndex_lt va 21)
          (tableIndex_lt va 12) (descKind_pageDescriptor frame permissions)
        rw [← pageOf_window window] at set
        exact { set with }

theorem mapPrivatePageWith_spec (state : MapState)
    (tables : Tables kernel state.memory state.space directory mapped) (va permissions : Nat)
    (free : PageSet (supply.pages ++ state.space.ownedTables)) :
    Extends state (state.mapPrivatePageWith va permissions supply).2 supply.pages ∧
      ∃ grown, Tables kernel (state.mapPrivatePageWith va permissions supply).2.memory
        (state.mapPrivatePageWith va permissions supply).2.space grown
        (mappedAfter mapped va (fun frame => normal4KibPageDescriptor frame permissions)
          (state.mapPrivatePageWith va permissions supply).1) := by
  unfold mapPrivatePageWith
  by_cases misaligned : va % granule4Kib ≠ 0
  · rw [if_pos misaligned]
    exact ⟨.refl state _, directory, tables⟩
  rw [if_neg misaligned]
  by_cases inside : privateRegionBase ≤ va ∧ va < privateRegionEnd
  swap
  · rw [if_pos inside]
    exact ⟨.refl state _, directory, tables⟩
  rw [if_neg (not_not.mpr inside)]
  have window := tableIndex_private inside.1 inside.2
  obtain ⟨one, grown, first, reached⟩ := leafTable_spec tables window free
  have frameFree := one.pages_left free
  generalize state.leafTable va supply = result at *
  obtain ⟨outcome, middle⟩ := result
  cases outcome with
  | error error => exact ⟨one.trans (.refl middle _), grown, first⟩
  | ok leaf =>
    obtain ⟨two, later⟩ := placeFrame_spec first window permissions (reached leaf rfl) frameFree
    exact ⟨one.trans two, grown, later⟩

theorem descend_pages (state : MapState) (table index : Nat) (answer : Option Nat) :
    (state.descend table index answer).2.space.ownedPages = state.space.ownedPages := by
  unfold descend
  dsimp only
  split_ifs
  · rfl
  · cases answer with
    | none => rfl
    | some fresh => rfl

theorem leafTable_pages (state : MapState) (va : Nat) (supply : Supply) :
    (state.leafTable va supply).2.space.ownedPages = state.space.ownedPages := by
  have first := descend_pages state state.space.root (tableIndex va 30) supply.second
  unfold leafTable
  generalize state.descend state.space.root (tableIndex va 30) supply.second = result at *
  obtain ⟨outcome, middle⟩ := result
  cases outcome with
  | error error => exact first
  | ok second => exact (descend_pages middle second (tableIndex va 21) supply.third).trans first

theorem mapPrivatePageWith_ok {permissions frame : Nat} {after : MapState}
    (mapped : state.mapPrivatePageWith va permissions supply = (.ok frame, after)) :
    va % granule4Kib = 0 ∧ (privateRegionBase ≤ va ∧ va < privateRegionEnd) ∧
      after.space.ownedPages = state.space.ownedPages ++ [frame] := by
  unfold mapPrivatePageWith at mapped
  by_cases misaligned : va % granule4Kib ≠ 0
  · rw [if_pos misaligned] at mapped
    cases mapped
  rw [if_neg misaligned] at mapped
  by_cases inside : privateRegionBase ≤ va ∧ va < privateRegionEnd
  swap
  · rw [if_pos inside] at mapped
    cases mapped
  rw [if_neg (not_not.mpr inside)] at mapped
  refine ⟨not_not.mp misaligned, inside, ?_⟩
  have kept := leafTable_pages state va supply
  generalize state.leafTable va supply = result at *
  obtain ⟨outcome, middle⟩ := result
  cases outcome with
  | error error => cases mapped
  | ok leaf =>
    obtain ⟨second, third, answer, reserve⟩ := supply
    cases reserve with
    | false => cases mapped
    | true =>
      cases answer with
      | none => cases mapped
      | some page =>
        cases mapped
        exact congrArg (· ++ [frame]) kept

theorem mapMmioPage_spec (state : MapState)
    (tables : Tables kernel state.memory state.space directory mapped) (va pa : Nat)
    (writable : Bool) (free : PageSet (supply.pages ++ state.space.ownedTables)) :
    Extends state (state.mapMmioPage va pa writable supply).2 supply.pages ∧
      ∃ grown, Tables kernel (state.mapMmioPage va pa writable supply).2.memory
        (state.mapMmioPage va pa writable supply).2.space grown
        (mappedAfter mapped va (fun _ => mmioDescriptor pa writable)
          (state.mapMmioPage va pa writable supply).1) := by
  unfold mapMmioPage
  by_cases misaligned : va % granule4Kib ≠ 0 ∨ pa % granule4Kib ≠ 0
  · rw [if_pos misaligned]
    exact ⟨.refl state _, directory, tables⟩
  rw [if_neg misaligned]
  by_cases inside : privateRegionBase ≤ va ∧ va < privateRegionEnd
  swap
  · rw [if_pos inside]
    exact ⟨.refl state _, directory, tables⟩
  rw [if_neg (not_not.mpr inside)]
  have window := tableIndex_private inside.1 inside.2
  obtain ⟨one, grown, first, reached⟩ := leafTable_spec tables window free
  generalize state.leafTable va supply = result at *
  obtain ⟨outcome, middle⟩ := result
  cases outcome with
  | error error => exact ⟨one.trans (.refl middle _), grown, first⟩
  | ok leaf =>
    have linked := reached leaf rfl
    have owned := (first.third _ leaf linked).1
    refine ⟨one.trans (store_extends owned (tableIndex_lt va 12) _ _), grown, ?_⟩
    have set := first.set_leaf linked (tableIndex_lt va 21) (tableIndex_lt va 12)
      (descKind_pageDescriptor pa ((if writable then apEl0Rw else apEl0Ro) ||| uxn ||| pxn))
    rw [← pageOf_window window] at set
    exact set

end MapState

/-! ## What the tables say -/

namespace Tables

variable {kernel : Nat → Nat} {memory : PhysMemory} {space : AddressSpace}
  {directory : Directory} {mapped : Nat → Option Nat}

theorem mapped_of_other_window (tables : Tables kernel memory space directory mapped)
    (other : tableIndex va 30 ≠ windowIndex) : mapped (pageOf va) = none := by
  cases found : mapped (pageOf va) with
  | none => rfl
  | some descriptor =>
    obtain ⟨i, iBound, j, jBound, same, -⟩ := tables.reached _ _ found
    have second := tableIndex_lt va 21
    have third := tableIndex_lt va 12
    rw [pageOf_eq] at same
    unfold windowPage tableEntries at *
    omega

theorem mapped_of_unlinked (tables : Tables kernel memory space directory mapped)
    (window : tableIndex va 30 = windowIndex) (unlinked : directory.third (tableIndex va 21) = none) :
    mapped (pageOf va) = none := by
  cases found : mapped (pageOf va) with
  | none => rfl
  | some descriptor =>
    obtain ⟨i, iBound, j, jBound, same, linked⟩ := tables.reached _ _ found
    have third := tableIndex_lt va 12
    rw [MapState.pageOf_window window] at same
    have equal : i = tableIndex va 21 := by
      unfold windowPage tableEntries at *
      omega
    exact absurd (equal ▸ unlinked) linked

/-- What the tables hold on the way to an address of the private window. -/
inductive WindowPath (memory : PhysMemory) (space : AddressSpace) (va : Nat)
    (found : Option Nat) : Prop
  | first (entry : memory (entryPtr space.root windowIndex) = 0) (unmapped : found = none)
  | second {table : Nat} (listed : table ∈ space.ownedTables)
      (entry : memory (entryPtr space.root windowIndex) = tableDescriptor table)
      (next : memory (entryPtr table (tableIndex va 21)) = 0) (unmapped : found = none)
  | third {table leaf : Nat} (listed : table ∈ space.ownedTables)
      (leafListed : leaf ∈ space.ownedTables)
      (entry : memory (entryPtr space.root windowIndex) = tableDescriptor table)
      (next : memory (entryPtr table (tableIndex va 21)) = tableDescriptor leaf)
      (last : memory (entryPtr leaf (tableIndex va 12)) = found.getD 0)

variable (tables : Tables kernel memory space directory mapped)

include tables

theorem window_path (window : tableIndex va 30 = windowIndex) :
    WindowPath memory space va (mapped (pageOf va)) := by
  have entry := tables.window
  cases second : directory.second with
  | none =>
    have unlinked : directory.third (tableIndex va 21) = none := by
      cases third : directory.third (tableIndex va 21) with
      | none => rfl
      | some table => exact absurd second (tables.linked _ table third)
    rw [second] at entry
    exact .first entry (tables.mapped_of_unlinked window unlinked)
  | some table =>
    have next := tables.middle table second _ (tableIndex_lt va 21)
    have listed := (tables.second table second).1
    rw [second] at entry
    cases third : directory.third (tableIndex va 21) with
    | none =>
      rw [third] at next
      exact .second listed entry next (tables.mapped_of_unlinked window third)
    | some leaf =>
      have last := tables.leaves _ leaf third _ (tableIndex_lt va 12)
      rw [third] at next
      rw [← MapState.pageOf_window window] at last
      exact .third listed (tables.third _ leaf third).1 entry next last

theorem descAddr_owned {table : Nat} (listed : table ∈ space.ownedTables) :
    descAddr (tableDescriptor table) = table :=
  descAddr_tableDescriptor (tables.owned.usable table listed).1 (tables.owned.usable table listed).2

/-- `page_descriptor` gives the mapping, for a space none of whose tables the kernel's level-1
entries lead to. -/
theorem pageDescriptor_eq
    (foreign : ∀ index < tableEntries, descKind (kernel index) = descTableOrPage →
      descAddr (kernel index) ∉ space.ownedTables) (va : Nat) :
    space.pageDescriptor memory va = mapped (pageOf va) := by
  unfold AddressSpace.pageDescriptor
  dsimp only
  by_cases window : tableIndex va 30 = windowIndex
  swap
  · rw [tables.mapped_of_other_window window, tables.shared _ (tableIndex_lt va 30) window]
    by_cases kind : descKind (kernel (tableIndex va 30)) = descTableOrPage
    · rw [if_neg (not_not.mpr kind), if_pos (foreign _ (tableIndex_lt va 30) kind)]
    · rw [if_pos kind]
  rw [window]
  cases tables.window_path window with
  | first entry unmapped =>
    rw [entry, unmapped]
    rfl
  | second listed entry next unmapped =>
    rw [entry, unmapped, descKind_tableDescriptor, tables.descAddr_owned listed,
      if_neg (not_not.mpr rfl), if_neg (not_not.mpr listed), next]
    rfl
  | third listed leafListed entry next last =>
    rw [entry, descKind_tableDescriptor, tables.descAddr_owned listed, if_neg (not_not.mpr rfl),
      if_neg (not_not.mpr listed), next, descKind_tableDescriptor,
      tables.descAddr_owned leafListed, if_neg (not_not.mpr rfl),
      if_neg (not_not.mpr leafListed), last]
    cases found : mapped (pageOf va) with
    | none => rfl
    | some descriptor => rw [Option.getD_some, if_pos (tables.kinds _ _ found)]

theorem walk_private (window : tableIndex va 30 = windowIndex) :
    walk memory space.root va = (mapped (pageOf va)).map fun descriptor => (3, descriptor) := by
  unfold walk
  dsimp only
  rw [window]
  cases tables.window_path window with
  | first entry unmapped =>
    rw [entry, unmapped]
    rfl
  | second listed entry next unmapped =>
    rw [entry, unmapped, descKind_tableDescriptor, tables.descAddr_owned listed,
      if_neg (by decide), if_neg (not_not.mpr rfl), next]
    rfl
  | third listed leafListed entry next last =>
    rw [entry, descKind_tableDescriptor, tables.descAddr_owned listed, if_neg (by decide),
      if_neg (not_not.mpr rfl), next, descKind_tableDescriptor, tables.descAddr_owned leafListed,
      if_neg (by decide), if_neg (not_not.mpr rfl), last]
    cases found : mapped (pageOf va) with
    | none => rfl
    | some descriptor =>
      rw [Option.getD_some, if_pos (tables.kinds _ _ found)]
      rfl

/-- A walk from the root of a space reads the space's own tables, and for the other level-1
entries the words the kernel's walk reads. -/
theorem visited_owned {boot : PhysMemory} {kernelRoot : Nat}
    (entries : ∀ index < tableEntries, kernel index = boot (entryPtr kernelRoot index))
    (unchanged : ∀ va, ∀ address ∈ visited boot kernelRoot va, memory address = boot address)
    (va : Nat) {address : Nat} (read : address ∈ visited memory space.root va) :
    (∃ table ∈ space.ownedTables, (frameAt table).Holds address) ∨
      address ∈ visited boot kernelRoot va := by
  have first := tableIndex_lt va 30
  have rootHeld : (frameAt space.root).Holds (entryPtr space.root (tableIndex va 30)) :=
    entryPtr_held _ first
  unfold visited at read
  dsimp only at read
  by_cases window : tableIndex va 30 = windowIndex
  swap
  · -- the entry is the kernel's, and so is the rest of the walk
    have same : memory (entryPtr space.root (tableIndex va 30)) =
        boot (entryPtr kernelRoot (tableIndex va 30)) :=
      (tables.shared _ first window).trans (entries _ first)
    rw [same] at read
    have seen := unchanged va
    unfold visited at seen ⊢
    dsimp only at seen ⊢
    by_cases kind : descKind (boot (entryPtr kernelRoot (tableIndex va 30))) ≠ descTableOrPage
    · rw [if_pos kind] at read
      rw [mem_singleton.mp read]
      exact .inl ⟨_, tables.root, rootHeld⟩
    have word := seen (entryPtr (descAddr (boot (entryPtr kernelRoot (tableIndex va 30))))
      (tableIndex va 21)) (by split_ifs <;> simp)
    rw [word] at read
    split_ifs at read ⊢
    all_goals
      rcases mem_cons.mp read with rfl | rest
      · exact .inl ⟨_, tables.root, rootHeld⟩
      · exact .inr (mem_cons_of_mem _ rest)
  left
  have atRoot : (frameAt space.root).Holds (entryPtr space.root windowIndex) :=
    entryPtr_held _ (by decide)
  rw [window] at read
  cases tables.window_path window with
  | first entry unmapped =>
    rw [entry] at read
    have only : address = entryPtr space.root windowIndex := by simpa [descTableOrPage] using read
    exact ⟨_, tables.root, only ▸ atRoot⟩
  | @second table listed entry next unmapped =>
    rw [entry, descKind_tableDescriptor, tables.descAddr_owned listed, if_neg (not_not.mpr rfl),
      next] at read
    have either : address = entryPtr space.root windowIndex ∨
        address = entryPtr table (tableIndex va 21) := by
      simpa [descTableOrPage] using read
    rcases either with rfl | rfl
    · exact ⟨_, tables.root, atRoot⟩
    · exact ⟨_, listed, entryPtr_held _ (tableIndex_lt va 21)⟩
  | third listed leafListed entry next last =>
    rw [entry, descKind_tableDescriptor, tables.descAddr_owned listed, if_neg (not_not.mpr rfl),
      next, descKind_tableDescriptor, tables.descAddr_owned leafListed,
      if_neg (not_not.mpr rfl)] at read
    rcases mem_cons.mp read with rfl | read
    · exact ⟨_, tables.root, atRoot⟩
    rcases mem_cons.mp read with rfl | read
    · exact ⟨_, listed, entryPtr_held _ (tableIndex_lt va 21)⟩
    · rw [mem_singleton.mp read]
      exact ⟨_, leafListed, entryPtr_held _ (tableIndex_lt va 12)⟩

end Tables

end Runix.Arm
