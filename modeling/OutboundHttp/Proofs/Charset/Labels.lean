import Mathlib.Data.List.Nodup
import Mathlib.Data.List.Pairwise
import OutboundHttp.Charset.Basic
import OutboundHttp.Proofs.Charset.SingleOctet

/-!
# The charset of a label

No label belongs to two charsets, so a charset is found by any of its labels, wherever it stands in
the list of all charsets (`ofLabel?_eq_some_iff`).
-/
namespace OutboundHttp
namespace Charset

open Text

theorem mem_all (charset : Charset) : charset ∈ all := by
  cases charset with
  | singleOctet set => cases set <;> decide
  | multiOctet set => cases set <;> decide
  | _ => decide

/-! ## Labels told apart -/

/-- A number by which labels are told apart. -/
def labelCode (label : String) : Nat :=
  label.toByteArray.data.toList.foldl (fun n octet => (n * 131 + octet.toNat) % 4093) 0

/-- The numbers of the labels of a charset. -/
def labelCodes (charset : Charset) : List Nat :=
  charset.labels.map labelCode

/-- No two labels have the same number, and none has that of the empty text. -/
theorem labelCodes_areNew : areNew 1 (all.flatMap labelCodes) = true := by
  decide +kernel

theorem ne_empty_of_mem_labels {charset : Charset} {known : String} (h : known ∈ charset.labels) :
    known ≠ "" := by
  rintro rfl
  have hcode : labelCode "" ∈ all.flatMap labelCodes :=
    List.mem_flatMap.mpr ⟨charset, mem_all charset, List.mem_map_of_mem h⟩
  exact absurd ((nodup_of_areNew labelCodes_areNew).2 _ hcode) (by decide)

/-- A label belongs to one charset. -/
theorem eq_of_mem_labels {charset other : Charset} {known : String} (h : known ∈ charset.labels)
    (h' : known ∈ other.labels) : charset = other := by
  by_contra hne
  have hnodup := (nodup_of_areNew labelCodes_areNew).1
  have hsymm : Std.Symm (Function.onFun List.Disjoint labelCodes) :=
    ⟨fun _ _ => List.disjoint_symm⟩
  have hapart := (List.nodup_flatMap.mp hnodup).2.forall (mem_all charset) (mem_all other) hne
  exact hapart (List.mem_map_of_mem h) (List.mem_map_of_mem h')

/-! ## The look-up -/

/-- **The charset of a label** is the one that has it among its labels. -/
theorem ofLabel?_eq_some_iff {charset : Charset} {label : Text} :
    ofLabel? label = some charset ↔
      ∃ known ∈ charset.labels, known.toList = lowerAscii (trim isAsciiSpace label) := by
  unfold ofLabel?
  generalize lowerAscii (trim isAsciiSpace label) = text
  have hany (other : Charset) : (other.labels.any fun known => known.toList == text) = true ↔
      ∃ known ∈ other.labels, known.toList = text := by
    simp [List.any_eq_true]
  constructor
  · intro h
    have hfound := List.find?_some h
    exact (hany charset).mp hfound
  · rintro ⟨known, hknown, heq⟩
    cases hother : all.find? fun other => other.labels.any fun known => known.toList == text with
    | none =>
      have hnone := List.find?_eq_none.mp hother charset (mem_all charset)
      exact absurd ((hany charset).mpr ⟨known, hknown, heq⟩) hnone
    | some other =>
      have hfound := List.find?_some hother
      obtain ⟨known', hknown', heq'⟩ := (hany other).mp hfound
      obtain rfl := String.toList_inj.mp (heq.trans heq'.symm)
      rw [eq_of_mem_labels hknown hknown']

theorem ofLabel?_nil : ofLabel? [] = none := by
  refine Option.eq_none_iff_forall_ne_some.mpr fun charset hcharset => ?_
  obtain ⟨known, hknown, heq⟩ := ofLabel?_eq_some_iff.mp hcharset
  exact ne_empty_of_mem_labels hknown (String.toList_inj.mp heq)

end Charset
end OutboundHttp
