import Colloquy.Proofs.Screen.Fields
import Colloquy.Proofs.Text.Plain

/-!
# Writing plain text

Plain text is written one character to a cell, as far as there is room, and no other cell changes.
-/

namespace Colloquy.Screen

open Text (Plain)

namespace Grid

variable {x y : Nat} {style : Style} {text : List Char}

theorem writeClusters_cons_of_plain {character : Char} (plain : Plain character)
    (room : Nat) (rest : List Text.Cluster) (grid : Grid) :
    writeClusters y style x (room + 1) ([character] :: rest) grid =
      writeClusters y style (x + 1) room rest
        (grid.modify x y fun cell => cell.put (String.ofList [character]) style) := by
  have skipped : (!Text.Cluster.isDrawable [character] || Text.Cluster.width [character] = 0) =
      false := by simp [plain.cluster.1, plain.cluster.2]
  have fits : ¬room + 1 < Text.Cluster.width [character] := by
    rw [plain.cluster.1]
    omega
  rw [writeClusters, skipped, if_neg (by decide), if_neg fits, plain.cluster.1]
  rfl

theorem changes_writeClusters_plain (plain : ∀ character ∈ text, Plain character) (room : Nat)
    (grid : Grid) :
    ChangesWithin (fun column row => row = y ∧ x ≤ column ∧ column < x + text.length) grid
      (writeClusters y style x room (text.map fun character => [character]) grid).1 := by
  induction text generalizing x room grid with
  | nil => exact .refl _ grid
  | cons character rest ih =>
      obtain ⟨first, others⟩ := List.forall_mem_cons.mp plain
      cases room with
      | zero => simpa [writeClusters, first.cluster] using ChangesWithin.refl _ grid
      | succ room =>
          rw [List.map_cons, writeClusters_cons_of_plain first]
          refine .trans ((ChangesWithin.modify grid x y _).mono ?_) ((ih others room _).mono ?_)
          · rintro column row ⟨rfl, rfl⟩
            exact ⟨rfl, Nat.le.refl, by simp⟩
          · rintro column row ⟨same, start, stop⟩
            rw [List.length_cons]
            exact ⟨same, by omega, by omega⟩

/-- The cells that plain text is written into show its characters. -/
theorem content_writeClusters_plain (plain : ∀ character ∈ text, Plain character) (room : Nat)
    {grid : Grid} (full : grid.Full) {column : Nat} {character : Char}
    (there : text[column]? = some character) (fits : column < room)
    (inWidth : x + column < grid.width) (inHeight : y < grid.height) :
    ((writeClusters y style x room (text.map fun character => [character]) grid).1.cell
      (x + column) y).content = some (String.ofList [character]) := by
  induction text generalizing x room grid column with
  | nil => simp at there
  | cons head rest ih =>
      obtain ⟨first, others⟩ := List.forall_mem_cons.mp plain
      obtain ⟨room, rfl⟩ : ∃ more, room = more + 1 := ⟨room - 1, by omega⟩
      have put := Stamps.put grid x y (String.ofList [head]) style
      rw [List.map_cons, writeClusters_cons_of_plain first]
      cases column with
      | zero =>
          obtain rfl : head = character := by simpa using there
          have shown := put.inside full x y ⟨rfl, rfl⟩ inWidth inHeight
          have later := (changes_writeClusters y style (x + 1) room
            (rest.map fun character => [character])
            (grid.modify x y fun cell => cell.put (String.ofList [head]) style)).2
          rwa [← later.outside x y fun ⟨start, _⟩ => Nat.not_succ_le_self x start] at shown
      | succ column =>
          have next := ih others room (put.full full) there (Nat.lt_of_succ_lt_succ fits)
            (x := x + 1) (by rw [put.width]; omega) (put.height ▸ inHeight)
          rwa [Nat.add_right_comm, Nat.add_assoc] at next

theorem changes_write_plain {text : String} (plain : ∀ character ∈ text.toList, Plain character)
    (grid : Grid) (limit : Nat) :
    ChangesWithin (fun column row => row = y ∧ x ≤ column ∧ column < x + text.toList.length) grid
      (grid.write x y text limit style).1 := by
  rw [write, Text.clusters_of_plain plain]
  exact changes_writeClusters_plain plain _ grid

theorem content_write_plain {text : String} (plain : ∀ character ∈ text.toList, Plain character)
    {grid : Grid} (full : grid.Full) {column limit : Nat} {character : Char}
    (there : text.toList[column]? = some character) (fits : column < limit)
    (inWidth : x + column < grid.width) (inHeight : y < grid.height) :
    ((grid.write x y text limit style).1.cell (x + column) y).content =
      some (String.ofList [character]) := by
  rw [write, Text.clusters_of_plain plain]
  exact content_writeClusters_plain plain _ full there (by omega) inWidth inHeight

end Grid

end Colloquy.Screen
