import IngressMeter.Metrics.Exposition
import Mathlib.Data.List.Basic

/-!
Which lines of an exposition stand for the series of a family. A line begins with the name that its
sample goes under, so as long as no two families use one name, the lines under the name of a family
are its own and there is one for each of its series.
-/

namespace IngressMeter.Exposition

def lineName (line : String) : String :=
  String.ofList (line.toList.takeWhile fun c => c ≠ '\x7b' && c ≠ ' ')

def linesNamed (name : String) (body : List String) : List String :=
  body.filter fun line => lineName line = name

def IsName (name : String) : Prop := ∀ c ∈ name.toList, c ≠ '\x7b' ∧ c ≠ ' '

instance : DecidablePred IsName :=
  fun name => List.decidableBAll (fun c => c ≠ '\x7b' ∧ c ≠ ' ') name.toList

theorem lineName_append {name : String} (isName : IsName name) {mark : String}
    (isMark : mark = "\x7b" ∨ mark = " ") (rest : String) :
    lineName (name ++ (mark ++ rest)) = name := by
  have stops : (mark.toList ++ rest.toList).takeWhile (fun c => c ≠ '\x7b' && c ≠ ' ') = [] := by
    rcases isMark with rfl | rfl <;> rfl
  rw [lineName, String.toList_append, String.toList_append, List.takeWhile_append_of_pos, stops]
  · simp
  · intro c member
    simpa using isName c member

theorem lineName_sampleLine {name : String} (isName : IsName name) (pairs : List LabelPair)
    (value : String) : lineName (sampleLine name pairs value) = name := by
  rw [sampleLine]
  split
  · rw [String.append_assoc, lineName_append isName (.inr rfl)]
  · simp only [String.append_assoc]
    rw [lineName_append isName (.inl rfl)]

def Family.sampleNames (family : Family) : List String :=
  match family.samples with
  | .histogram _ => [family.name ++ "_bucket", family.name ++ "_sum", family.name ++ "_count"]
  | _ => [family.name]

theorem IsName.append {name other : String} (isName : IsName name) (isNameToo : IsName other) :
    IsName (name ++ other) := by
  intro c member
  rw [String.toList_append, List.mem_append] at member
  exact member.elim (isName c) (isNameToo c)

theorem lineName_comment (rest : String) : lineName ("# " ++ rest) = "#" := by
  have isName : IsName "#" := by decide
  have split : "# " ++ rest = "#" ++ (" " ++ rest) := by
    rw [← String.append_assoc]
    rfl
  rw [split, lineName_append isName (.inr rfl)]

theorem linesNamed_family {name : String} (noComment : name ≠ "#") (family : Family) :
    linesNamed name family.lines = linesNamed name (family.samples.lines family.name) := by
  have help : lineName ("# HELP " ++ family.name ++ " " ++ family.help) = "#" :=
    (congrArg lineName (by simp [← String.append_assoc])).trans
      (lineName_comment ("HELP " ++ family.name ++ " " ++ family.help))
  have type : lineName ("# TYPE " ++ family.name ++ " " ++ family.samples.typeName) = "#" :=
    (congrArg lineName (by simp [← String.append_assoc])).trans
      (lineName_comment ("TYPE " ++ family.name ++ " " ++ family.samples.typeName))
  simp [linesNamed, Family.lines, help, type, Ne.symm noComment]

theorem lineName_mem_sampleNames {family : Family} (isName : IsName family.name) :
    ∀ line ∈ family.samples.lines family.name, lineName line ∈ family.sampleNames := by
  obtain ⟨name, help, samples⟩ := family
  intro line isSample
  cases samples with
  | counter series =>
      obtain ⟨entry, _, rfl⟩ := List.mem_map.mp isSample
      rw [lineName_sampleLine isName]
      exact List.mem_singleton_self _
  | gauge series =>
      obtain ⟨entry, _, rfl⟩ := List.mem_map.mp isSample
      rw [lineName_sampleLine isName]
      exact List.mem_singleton_self _
  | histogram series =>
      obtain ⟨entry, _, ofEntry⟩ := List.mem_flatMap.mp isSample
      have bucket : IsName (name ++ "_bucket") := isName.append (by decide)
      have sum : IsName (name ++ "_sum") := isName.append (by decide)
      have count : IsName (name ++ "_count") := isName.append (by decide)
      simp only [histogramLines, List.mem_append, List.mem_map, List.mem_cons, List.not_mem_nil,
        or_false] at ofEntry
      simp only [Family.sampleNames, List.mem_cons, List.not_mem_nil, or_false]
      rcases ofEntry with ⟨_, _, rfl⟩ | rfl | rfl | rfl
      · exact .inl (lineName_sampleLine bucket _ _)
      · exact .inl (lineName_sampleLine bucket _ _)
      · exact .inr (.inl (lineName_sampleLine sum _ _))
      · exact .inr (.inr (lineName_sampleLine count _ _))

theorem linesNamed_eq_nil {family : Family} (isName : IsName family.name) {name : String}
    (noComment : name ≠ "#") (foreign : name ∉ family.sampleNames) :
    linesNamed name family.lines = [] := by
  rw [linesNamed_family noComment, linesNamed, List.filter_eq_nil_iff]
  intro line member
  rw [decide_eq_true_eq]
  rintro rfl
  exact foreign (lineName_mem_sampleNames isName line member)

theorem linesNamed_gauge {name : String} (isName : IsName name) (noComment : name ≠ "#")
    (help : String) (series : List (List LabelPair × Float)) :
    linesNamed name (Family.lines ⟨name, help, .gauge series⟩) =
      series.map fun entry => sampleLine name entry.1 (Decimal.render entry.2) := by
  rw [linesNamed_family noComment, Samples.lines, linesNamed, List.filter_eq_self]
  intro line isSample
  obtain ⟨entry, _, rfl⟩ := List.mem_map.mp isSample
  rw [lineName_sampleLine isName, decide_eq_true_eq]

theorem flatMap_filter_of_eq_nil {α β : Type} {selected : α → Bool} {parts : α → List β}
    {items : List α} (nothing : ∀ item ∈ items, selected item = false → parts item = []) :
    (items.filter selected).flatMap parts = items.flatMap parts := by
  induction items with
  | nil => rfl
  | cons first rest ih =>
      have others := ih fun item member => nothing item (List.mem_cons_of_mem _ member)
      cases isSelected : selected first with
      | true => rw [List.filter_cons_of_pos isSelected, List.flatMap_cons, others, List.flatMap_cons]
      | false =>
          rw [List.filter_cons_of_neg (by simp [isSelected]), others, List.flatMap_cons,
            nothing first List.mem_cons_self isSelected, List.nil_append]

theorem mem_of_mem_shown {families : List Family} {family : Family}
    (member : family ∈ shown families) : family ∈ families :=
  List.mem_of_mem_filter (List.mem_mergeSort.mp member)

theorem linesNamed_lines {families : List Family}
    (areNames : ∀ family ∈ families, IsName family.name) {name : String} (noComment : name ≠ "#")
    {own : Family} (isOwn : families.filter (fun family => name ∈ family.sampleNames) = [own]) :
    linesNamed name (lines families) =
      if own.samples.isEmpty then [] else linesNamed name own.lines := by
  have foreign : ∀ family ∈ shown families, decide (name ∈ family.sampleNames) = false →
      linesNamed name family.lines = [] := by
    intro family member foreign
    exact linesNamed_eq_nil (areNames family (mem_of_mem_shown member)) noComment
      (of_decide_eq_false foreign)
  have left : ((shown families).filter fun family => name ∈ family.sampleNames).Perm
      ([own].filter fun family => !family.samples.isEmpty) := by
    have sorted := (List.mergeSort_perm (families.filter fun family => !family.samples.isEmpty)
      fun a b => !(b.name < a.name)).filter fun family => name ∈ family.sampleNames
    rwa [List.filter_comm, isOwn] at sorted
  rw [lines, linesNamed, List.filter_flatMap]
  refine (flatMap_filter_of_eq_nil foreign).symm.trans ?_
  cases isEmpty : own.samples.isEmpty with
  | true =>
      rw [List.filter_cons_of_neg (by simp [isEmpty]), List.filter_nil] at left
      rw [left.eq_nil]
      rfl
  | false =>
      rw [List.filter_cons_of_pos (by simp [isEmpty]), List.filter_nil] at left
      rw [left.eq_singleton]
      simp

theorem linesNamed_lines_gauge {families : List Family}
    (areNames : ∀ family ∈ families, IsName family.name) {name help : String}
    (noComment : name ≠ "#") {series : List (List LabelPair × Float)}
    (isOwn : families.filter (fun family => name ∈ family.sampleNames) =
      [⟨name, help, .gauge series⟩]) :
    linesNamed name (lines families) =
      series.map fun entry => sampleLine name entry.1 (Decimal.render entry.2) := by
  have isFamily : (⟨name, help, .gauge series⟩ : Family) ∈ families :=
    List.mem_of_mem_filter (isOwn ▸ List.mem_singleton_self _)
  rw [linesNamed_lines areNames noComment isOwn, linesNamed_gauge (areNames _ isFamily) noComment]
  cases series <;> rfl

end IngressMeter.Exposition
