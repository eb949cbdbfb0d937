import SchemaAccess.CommandLine.Run
import SchemaAccess.Proofs.StepOutcome

namespace SchemaAccess

namespace Text.Markup

theorem tag?_eq_none {cs : List Char} (h : '[' ∉ cs) : tag? cs = none := by
  unfold tag?
  split
  · simp at h
  · rfl

theorem match?_eq_none {cs : List Char} (h : '[' ∉ cs) : match? cs = none := by
  rw [match?, tag?_eq_none fun hmem => h (List.mem_of_mem_drop hmem)]
  rfl

theorem partsFrom_of_notMem {cs : List Char} (h : '[' ∉ cs) {fuel : Nat} (hfuel : cs.length < fuel)
    (position : Nat) (plain : List Char) : partsFrom fuel position plain cs = [.plain (plain.reverse ++ cs)] := by
  induction cs generalizing fuel position plain with
  | nil =>
    obtain ⟨fuel, rfl⟩ : ∃ m, fuel = m + 1 := ⟨fuel - 1, by omega⟩
    rw [partsFrom, match?_eq_none h, List.append_nil]
  | cons c cs ih =>
    obtain ⟨fuel, rfl⟩ : ∃ m, fuel = m + 1 := ⟨fuel - 1, by omega⟩
    rw [partsFrom, match?_eq_none h]
    dsimp only
    rw [ih (fun hmem => h (List.mem_cons_of_mem c hmem)) (by simpa using hfuel)]
    simp

theorem partsFrom_of_match? {cs : List Char} {m : Match} (h : match? cs = some m) (fuel position : Nat)
    (plain : List Char) : partsFrom (fuel + 1) position plain cs = .plain plain.reverse :: m.parts position ++
      partsFrom fuel (position + m.slashes + m.tag.length + 2) [] m.after := by
  rw [partsFrom.eq_def]
  simp [h]

def greenMark : String := "[bold green]✓[/bold green]"

theorem partsFrom_greenMark (fuel : Nat) (cs : List Char) :
    partsFrom (fuel + 3) 0 [] (greenMark.toList ++ cs) =
      [.plain [], .plain [], .tag "bold green".toList 0, .plain ['✓'], .plain [],
        .tag "/bold green".toList 13] ++ partsFrom fuel 26 [] cs := by
  have hopening : match? (greenMark.toList ++ cs) =
      some ⟨0, "bold green".toList, '✓' :: ("[/bold green]".toList ++ cs)⟩ := rfl
  have hmark : match? ('✓' :: ("[/bold green]".toList ++ cs)) = none := rfl
  have hclosing : match? ("[/bold green]".toList ++ cs) = some ⟨0, "/bold green".toList, cs⟩ := rfl
  rw [partsFrom_of_match? hopening]
  dsimp only
  rw [partsFrom, hmark]
  dsimp only
  rw [partsFrom_of_match? hclosing]
  simp [Match.parts]

theorem readColor_green : Style.readColor "green" = .ok "green" ∨
    Style.readColor "green" = .error .unknownWord := by
  have hlower : lowerCase "green" = "green" := rfl
  have hmixed : Style.checkMixedColor "green".toList = .error .unknownWord := rfl
  unfold Style.readColor
  rw [hlower]
  dsimp only
  split
  · exact .inl rfl
  · rw [hmixed]
    exact .inr rfl

theorem ofText_green : Style.ofText "bold green".toList = (do
    return { Style.plain with
      traits := Style.plain.traits.put "bold" true, color := some (← Style.readColor "green") }) := rfl

theorem exists_tagName {tag : List Char} (h : (∃ style, Style.ofText (tag.takeWhile (· != '=')) = .ok style) ∨
    Style.ofText (tag.takeWhile (· != '=')) = .error .unknownWord) : ∃ name, tagName tag = .ok name := by
  unfold tagName Style.normalForm
  rcases h with ⟨style, h⟩ | h
  all_goals
    rw [h]
    exact ⟨_, rfl⟩

theorem exists_tagName_green : ∃ name, tagName "bold green".toList = .ok name := by
  have htag : "bold green".toList.takeWhile (· != '=') = "bold green".toList := rfl
  apply exists_tagName
  rw [htag, ofText_green]
  rcases readColor_green with h | h
  · rw [h]
    exact .inl ⟨_, rfl⟩
  · rw [h]
    exact .inr rfl

theorem close_greenMark {name : String} (h : tagName "bold green".toList = .ok name) :
    close [⟨name, []⟩] "/bold green".toList 13 = .ok [] := by
  have hclosed : closed [⟨name, []⟩] "/bold green".toList 13 = .ok ⟨name, []⟩ := by
    unfold closed
    rw [if_neg (by decide)]
    have htrim : trimBlank ("/bold green".toList.drop 1) = "bold green".toList := rfl
    rw [htrim, h]
    simp [bind, Except.bind, pure, Except.pure]
  rw [close, hclosed]
  simp [OpenTag.fault?, bind, Except.bind, pure, Except.pure]

theorem exists_render_plain {openTags : List OpenTag} {parts : List Part}
    (h : ∃ cs, render openTags parts = .ok cs) (text : List Char) :
    ∃ cs, render openTags (.plain text :: parts) = .ok cs := by
  obtain ⟨cs, hcs⟩ := h
  rw [render, hcs]
  exact ⟨_, rfl⟩

theorem exists_render_open {openTags : List OpenTag} {t : OpenTag} {tag : List Char} {parts : List Part}
    (htag : tag.head? ≠ some '/') (hopen : openTag tag = .ok t)
    (h : ∃ cs, render (t :: openTags) parts = .ok cs) (position : Nat) :
    ∃ cs, render openTags (.tag tag position :: parts) = .ok cs := by
  rw [render, if_neg htag, hopen]
  exact h

theorem exists_render_close {openTags left : List OpenTag} {tag : List Char} {position : Nat}
    {parts : List Part} (htag : tag.head? = some '/') (hclose : close openTags tag position = .ok left)
    (h : ∃ cs, render left parts = .ok cs) : ∃ cs, render openTags (.tag tag position :: parts) = .ok cs := by
  rw [render, if_pos htag, hclose]
  exact h

theorem exists_unstyled_of_render {text : String}
    (h : ∃ cs, render [] (partsFrom (text.toList.length + 1) 0 [] text.toList) = .ok cs) :
    ∃ line, unstyled text = .ok line := by
  obtain ⟨cs, hcs⟩ := h
  rw [unstyled]
  rw [hcs]
  exact ⟨_, rfl⟩

theorem exists_unstyled_greenMark {text : String} (h : '[' ∉ text.toList) :
    ∃ line, unstyled (greenMark ++ text) = .ok line := by
  obtain ⟨name, hname⟩ := exists_tagName_green
  have hopen : openTag "bold green".toList = .ok ⟨name, []⟩ := by
    rw [openTag, hname]
    rfl
  have hlength : (greenMark.toList ++ text.toList).length + 1 = (text.toList.length + 24) + 3 := by
    rw [List.length_append, show greenMark.toList.length = 26 from rfl]
    omega
  have hlast : ∃ cs, render [] [.plain text.toList] = .ok cs := exists_render_plain ⟨[], rfl⟩ _
  have hclosing := exists_render_close (by decide) (close_greenMark hname) hlast
  have hmark := exists_render_plain (exists_render_plain hclosing []) ['✓']
  have hopening := exists_render_open (by decide) hopen hmark 0
  apply exists_unstyled_of_render
  rw [String.toList_append, hlength, partsFrom_greenMark, partsFrom_of_notMem h (by omega)]
  exact exists_render_plain (exists_render_plain hopening []) []

end Text.Markup

end SchemaAccess
