import Mathlib.Data.String.Basic
import Reconcile.Storage

/-!
# Locations of plain names

A name without slashes is the only segment of its location, and its path. Main statement:
`ofPath_of_notMem`.
-/

namespace Reconcile

open String (ofList utf8Len)

/-- A search for slashes goes through characters that are none. -/
theorem splitOnAux_of_notMem (l r : List Char) (hr : '/' ∉ r) :
    String.splitOnAux (ofList (l ++ r)) "/" 0 ⟨utf8Len l⟩ 0 [] = [ofList (l ++ r)] := by
  induction r generalizing l with
  | nil =>
    have hall := String.extract_of_valid [] l []
    rw [String.splitOnAux, if_pos (by simp)]
    simpa using hall
  | cons c r ih =>
    have hc : c ≠ '/' := fun h => hr (h ▸ List.mem_cons_self)
    have hrest := ih (l ++ [c]) fun h => hr (List.mem_cons_of_mem _ h)
    have hend : ¬String.Pos.Raw.atEnd (ofList (l ++ c :: r)) ⟨utf8Len l⟩ = true := by
      rw [String.atEnd_of_valid]
      exact List.cons_ne_nil c r
    have hget : String.Pos.Raw.get (ofList (l ++ c :: r)) ⟨utf8Len l⟩ = c :=
      String.get_of_valid l (c :: r)
    have hslash : String.Pos.Raw.get "/" 0 = '/' := by decide
    have hback : String.Pos.Raw.unoffsetBy ⟨utf8Len l⟩ 0 = ⟨utf8Len l⟩ := rfl
    have hplace : utf8Len (l ++ [c]) = utf8Len l + c.utf8Size := by simp
    rw [hplace, List.append_assoc, List.singleton_append] at hrest
    rw [String.splitOnAux, if_neg hend, hget, hslash, if_neg (by simpa using hc), hback,
      String.next_of_valid]
    exact hrest

theorem splitOn_of_notMem {name : String} (h : '/' ∉ name.toList) : name.splitOn "/" = [name] := by
  have hall := splitOnAux_of_notMem [] name.toList h
  rw [List.nil_append, String.ofList_toList] at hall
  rw [String.splitOn, if_neg (by decide)]
  exact hall

/-- **A name without slashes** is the only segment of its location. -/
theorem Location.ofPath_of_notMem {name : String} (h : '/' ∉ name.toList) (hname : name ≠ "")
    (hdot : name ≠ ".") : Location.ofPath name = ⟨"", [name]⟩ := by
  have hslashes : (name.toList.takeWhile (· = '/')).length = 0 := by
    cases hchars : name.toList with
    | nil => rfl
    | cons c rest =>
      have hc : c ≠ '/' := fun hc => h (hchars ▸ hc ▸ List.mem_cons_self)
      rw [List.takeWhile_cons_of_neg (by simpa using hc)]
      rfl
  rw [Location.ofPath, hslashes, splitOn_of_notMem h]
  simp [hname, hdot]

namespace Location

theorem path_name (name : String) : path ⟨"", [name]⟩ = name := String.empty_append

theorem expandHome?_name {name : String} (h : name.toList.head? ≠ some '~') (homes : Homes) :
    expandHome? ⟨"", [name]⟩ homes = some ⟨"", [name]⟩ := by
  simp only [expandHome?]
  split
  · rename_i user hchars
    rw [hchars] at h
    exact absurd rfl h
  · rfl

end Location

end Reconcile
