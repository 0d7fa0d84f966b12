/-!
The fifteen colours of the dashboard, handed out by position and repeated when they run out.
-/

namespace ReportCharts

namespace Palette

def colors : List String :=
  ["#3e95cd", "#8e5ea2", "#3cba9f", "#e8c3b9", "#c45850", "#ff8c00", "#483d8b", "#00bfff",
    "#1e90ff", "#008000", "#df42f4", "#c7f441", "#f47641", "#f44141", "#43f441"]

def color (index : Nat) : String := colors.getD (index % 15) ""

def firstColors (count : Nat) : List String := (List.range count).map color

@[simp]
theorem length_colors : colors.length = 15 := rfl

@[simp]
theorem length_firstColors (count : Nat) : (firstColors count).length = count := by
  simp [firstColors]

theorem color_mod (index : Nat) : color (index % 15) = color index := by
  simp [color]

theorem getElem?_colors (index : Nat) : colors[index % 15]? = some (color index) := by
  have bound : index % 15 < colors.length := by
    simpa using Nat.mod_lt index (by decide)
  simp only [color, List.getD_eq_getElem?_getD, List.getElem?_eq_getElem bound, Option.getD_some]

theorem nodup_colors : colors.Nodup := by decide

/-- No colour is handed out twice before the others are used up. -/
theorem color_eq_color_iff {first second : Nat} :
    color first = color second ↔ first % 15 = second % 15 := by
  constructor
  · intro same
    have bound : first % 15 < colors.length := Nat.mod_lt first (by decide)
    have places : colors[first % 15]? = colors[second % 15]? := by
      rw [getElem?_colors, getElem?_colors, same]
    exact (List.getElem?_inj bound nodup_colors).mp places
  · intro same
    rw [← color_mod first, same, color_mod]

theorem getElem?_firstColors {index count : Nat} (inside : index < count) :
    (firstColors count)[index]? = some (color index) := by
  simp [firstColors, List.getElem?_range inside]

end Palette

end ReportCharts
