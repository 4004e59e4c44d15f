/-!
# Sorting by bytes

The order of texts by their UTF-8 bytes, and sorting by it. Sorting keeps every text,
repeated ones included, so the result depends only on which texts there are. It does not
depend on the way of sorting either: no other arrangement of the texts is in order.
-/

namespace RuntimeValues.Text

set_option autoImplicit false

def utf8 (s : String) : List UInt8 := s.toByteArray.data.toList

/-- Whether the bytes of the first text come before those of the second, or are the same. -/
def notAfter (s t : String) : Bool := decide (utf8 s ≤ utf8 t)

/-- The texts in the order of their bytes. -/
def sorted (texts : List String) : List String := texts.mergeSort notAfter

theorem utf8_injective {s t : String} (h : utf8 s = utf8 t) : s = t := by
  apply String.toByteArray_inj.mp
  apply ByteArray.ext
  exact Array.toList_inj.mp h

theorem notAfter_iff {s t : String} : notAfter s t = true ↔ utf8 s ≤ utf8 t := decide_eq_true_iff

theorem sorted_perm (texts : List String) : (sorted texts).Perm texts :=
  List.mergeSort_perm texts notAfter

/-- The texts stand in the order of their bytes. -/
theorem pairwise_sorted (texts : List String) :
    (sorted texts).Pairwise fun s t => utf8 s ≤ utf8 t := by
  have hordered : (sorted texts).Pairwise fun s t => notAfter s t = true := by
    refine List.pairwise_mergeSort ?_ ?_ texts
    · intro r s t hrs hst
      exact notAfter_iff.mpr (List.le_trans (notAfter_iff.mp hrs) (notAfter_iff.mp hst))
    · intro s t
      rw [Bool.or_eq_true, notAfter_iff, notAfter_iff]
      exact List.le_total (utf8 s) (utf8 t)
  exact hordered.imp notAfter_iff.mp

/-- There is one arrangement of the texts in the order of their bytes. -/
theorem eq_sorted_of_perm {texts arranged : List String} (hperm : arranged.Perm texts)
    (hordered : arranged.Pairwise fun s t => utf8 s ≤ utf8 t) : arranged = sorted texts := by
  refine List.Perm.eq_of_pairwise ?_ hordered (pairwise_sorted texts)
    (hperm.trans (sorted_perm texts).symm)
  intro s t _ _ hst hts
  exact utf8_injective (List.le_antisymm hst hts)

theorem sorted_eq_sorted_iff {texts texts' : List String} :
    sorted texts = sorted texts' ↔ texts.Perm texts' := by
  constructor
  · intro h
    have hperm := sorted_perm texts
    rw [h] at hperm
    exact hperm.symm.trans (sorted_perm texts')
  · intro h
    exact eq_sorted_of_perm ((sorted_perm texts).trans h) (pairwise_sorted texts)

end RuntimeValues.Text
