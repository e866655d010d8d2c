import LogSieve.Proofs.Calendar.Stamp
import LogSieve.Proofs.CommandLine.Listing
import LogSieve.Proofs.Record.Limits
import LogSieve.Search

/-!
# Bounds that cannot be read

A bound is given as a text, to a search or to an option of the command line.  A text that
is no stamp is refused on each of these ways: the message begins with the name of the
bound, and the command line ends with code two.  A stamp whose instant is out of the
calendar is no bound either, and it is not refused but breaks off what it was given to
(`bound_is_refused_iff`).

What else is on the command line matters little.  The words before the bound are read on
their own (`Argument.ofWords_append`, `Choices.read_append`), and of those behind it only
an ambiguous one is looked at before the bound is read.
-/

namespace LogSieve

open Calendar (Instant IsOutOfCalendar)

/-! ## Texts -/

/-- A stamp out of the calendar does not look like an option. -/
theorem Calendar.IsOutOfCalendar.head?_ne {text : Text} (h : IsOutOfCalendar text) :
    text.head? ≠ some '-' := by
  obtain ⟨stamp, hstamp, -⟩ := h
  obtain ⟨c, rest, htext, hdigit⟩ := Calendar.Stamp.exists_of_ofText hstamp
  intro hdash
  obtain ⟨more, rfl⟩ := List.head?_eq_some_iff.mp hdash
  obtain ⟨rfl, -⟩ := List.cons.inj htext
  cases hdigit

theorem Window.bound_eq_outOfRange_iff {text : Text} :
    Window.bound text = .error .outOfRange ↔ IsOutOfCalendar text := by
  have hread : Instant.ofText? text = .error .outOfRange ↔ IsOutOfCalendar text :=
    Instant.ofText?_eq_error_iff
  rw [← hread, Window.bound]
  split
  · simp [*]
  · simp [*]
  · rename_i fault hfault
    cases fault
    exact iff_of_true rfl hfault

/-- A text is a bound, or it is no stamp, or it is out of the calendar. -/
theorem Window.bound_isRefused_iff (name text : Text) :
    ((∃ instant, Window.bound text = .ok instant) ∨
        Window.bound text = .error .notAStamp ∧ name <+: BoundFault.notAStamp.message name text) ↔
      ¬ IsOutOfCalendar text := by
  have hname : name <+: BoundFault.notAStamp.message name text := by
    rw [BoundFault.message, List.append_assoc, List.append_assoc]
    exact List.prefix_append _ _
  rw [← bound_eq_outOfRange_iff]
  cases Window.bound text with
  | ok instant => simp
  | error fault => cases fault <;> simp [hname]

/-! ## Searches -/

namespace Search

/-- A text is the bound of a search that is read next when those before it were read: the earlier
bound, or the later one if the earlier one is missing, empty or can be read. -/
inductive Reads (search : Search) : Text → Text → Prop
  | since {text : Text} (htext : search.since = some text) (hne : text ≠ []) :
      Reads search "since".toList text
  | till {text : Text} {since : Option Instant}
      (hsince : boundOf "since".toList search.since = .ok since)
      (htext : search.till = some text) (hne : text ≠ []) : Reads search "until".toList text

theorem boundOf_eq_error {text : Text} (hne : text ≠ []) {fault : BoundFault}
    (h : Window.bound text = .error fault) (name : Text) :
    boundOf name (some text) = .error (.bound name text fault) := by
  obtain ⟨c, rest, rfl⟩ := List.exists_cons_of_ne_nil hne
  simp only [boundOf, h]

/-- The limit of a search is looked at before its bounds. -/
theorem run_of_reads {search : Search} {name text : Text} (hreads : search.Reads name text)
    {fault : BoundFault} (h : Window.bound text = .error fault) (host : Host) (hardLimit : Int) :
    run host hardLimit search =
      if search.limit.getD defaultLimit ≤ 0 then .error (.scan .limitNotPositive)
      else .error (.bound name text fault) := by
  rw [run]
  refine ite_congr rfl (fun _ => rfl) fun _ => ?_
  cases hreads with
  | since htext hne =>
      rw [htext, boundOf_eq_error hne h]
      rfl
  | till hsince htext hne =>
      rw [hsince, htext, boundOf_eq_error hne h]
      rfl

end Search

namespace CommandLine

/-! ## Words in front -/

/-- A word before the two dashes is looked at alone. -/
theorem Argument.ofWords_cons {word : Text} {argument : Argument} (hword : word ≠ dashesWord)
    (h : Argument.ofWord word = .ok argument) (rest : List Text) :
    Argument.ofWords (word :: rest) = (Argument.ofWords rest).map (argument :: ·) := by
  rw [Argument.ofWords, if_neg hword, h]
  cases Argument.ofWords rest <;> rfl

theorem Argument.ofWords_append {before : List Text} {arguments : List Argument}
    (hdashes : dashesWord ∉ before) (h : Argument.ofWords before = .ok arguments)
    (after : List Text) :
    Argument.ofWords (before ++ after) = (Argument.ofWords after).map (arguments ++ ·) := by
  induction before generalizing arguments with
  | nil =>
      obtain rfl : [] = arguments := Except.ok.inj h
      rw [List.nil_append]
      cases Argument.ofWords after <;> rfl
  | cons word rest ih =>
      rw [List.mem_cons, not_or] at hdashes
      obtain ⟨hword, hrest⟩ := hdashes
      rw [Argument.ofWords, if_neg (Ne.symm hword)] at h
      obtain ⟨argument, hargument, h⟩ := exists_of_bind_eq_ok h
      obtain ⟨others, hothers, h⟩ := exists_of_bind_eq_ok h
      obtain rfl : argument :: others = arguments := Except.ok.inj h
      rw [List.cons_append, Argument.ofWords_cons (Ne.symm hword) hargument, ih hrest hothers]
      cases Argument.ofWords after <;> rfl

/-- Arguments are read one after the other unless they ask for help. -/
theorem Choices.read_append {choices after : Choices} {arguments : List Argument}
    (h : choices.read arguments = .ok after) (hhelp : after.help = false) (rest : List Argument) :
    choices.read (arguments ++ rest) = after.read rest := by
  -- along the reading: a call for help ends it early, and then help is chosen
  fun_induction Choices.read choices arguments with
  | case1 choices => rw [Except.ok.inj h, List.nil_append]
  | case2 choices word more ih => exact ih h
  | case3 choices more ih => exact ih h
  | case4 choices word more ih => exact ih h
  | case5 choices more =>
      rw [← Except.ok.inj h] at hhelp
      cases hhelp
  | case6 choices more ih => exact ih h
  | case7 choices more ih => exact ih h
  | case8 choices switch value more chosen hvalue ih =>
      rw [List.cons_append, Choices.read, hvalue]
      exact ih h
  | case10 choices switch value more hnotHelp hexplain hbare chosen hvalue ih =>
      rw [List.cons_append, List.cons_append, Choices.read, hvalue]
      · exact ih h
      · exact hnotHelp
      · exact hexplain
      · exact hbare
  | case9 | case11 | case12 => cases h

/-! ## Options with a value -/

/-- Words that give a value to an option: the start of a long name that no other option has, and
the value as the next word or behind an equals sign. -/
inductive Gives (switch : Switch) (value : Text) : List Text → Prop
  | apart {start : Text} (hlong : ['-', '-'] <+: start)
      (hstart : Switch.startingWith start = [switch]) : Gives switch value [start, value]
  | attached {start : Text} (hlong : ['-', '-'] <+: start)
      (hstart : Switch.startingWith start = [switch]) :
      Gives switch value [start ++ '=' :: value]

section

variable {start value : Text} {switch : Switch}

theorem equals_not_mem_of_startingWith (h : Switch.startingWith start = [switch]) :
    '=' ∉ start := by
  have hname : start <+: switch.name := by
    have hmem : switch ∈ Switch.startingWith start := h ▸ List.mem_singleton_self switch
    exact List.isPrefixOf_iff_prefix.mp (List.mem_filter.mp hmem).2
  have hnot : '=' ∉ switch.name := by
    cases switch <;> decide
  exact fun hmem => hnot (hname.subset hmem)

theorem ofWord_of_startingWith (hlong : ['-', '-'] <+: start)
    (h : Switch.startingWith start = [switch]) :
    Argument.ofWord start = .ok (.option switch none) := by
  have hequals := equals_not_mem_of_startingWith h
  have hwhole : start.takeWhile (· != '=') = start :=
    List.takeWhile_eq_self_iff.mpr fun c hc => by
      rw [bne_iff_ne]
      rintro rfl
      exact hequals hc
  have hsplit := Text.splitFirst_eq_none_of_not_mem hequals
  obtain ⟨rest, rfl⟩ := hlong
  rw [List.cons_append, List.singleton_append] at hwhole hsplit h ⊢
  rw [ofWord_dashes, hwhole, h, hsplit]
  rfl

theorem ofWord_of_attached (hlong : ['-', '-'] <+: start)
    (h : Switch.startingWith start = [switch]) :
    Argument.ofWord (start ++ '=' :: value) = .ok (.option switch (some value)) := by
  have hequals := equals_not_mem_of_startingWith h
  have hfront : (start ++ '=' :: value).takeWhile (· != '=') = start := by
    rw [List.takeWhile_append_of_pos, List.takeWhile_cons_of_neg (by simp), List.append_nil]
    intro c hc
    rw [bne_iff_ne]
    rintro rfl
    exact hequals hc
  have hsplit := Text.splitFirst_append_cons hequals value
  obtain ⟨rest, rfl⟩ := hlong
  simp only [List.cons_append, List.nil_append] at hfront hsplit h ⊢
  rw [ofWord_dashes, hfront, h, hsplit]
  rfl

theorem ne_dashesWord_of_startingWith (h : Switch.startingWith start = [switch]) :
    start ≠ dashesWord := by
  rintro rfl
  have hall : Switch.startingWith dashesWord = Switch.all := by decide
  rw [hall] at h
  cases h

theorem attached_ne_dashesWord (start value : Text) : start ++ '=' :: value ≠ dashesWord := by
  intro heq
  have hequals : '=' ∉ dashesWord := by decide
  exact hequals (heq ▸ by simp)

theorem ne_of_isBound (h : switch = .since ∨ switch = .till) :
    switch ≠ .help ∧ switch ≠ .explain ∧ switch ≠ .bare := by
  rcases h with rfl | rfl <;> decide

/-- An option for a bound takes the plain word behind it as its value. -/
theorem Choices.read_apart (hswitch : switch = .since ∨ switch = .till) (choices : Choices)
    (value : Text) (rest : List Argument) :
    choices.read (.option switch none :: .plain value :: rest) =
      choices.takeValue switch value >>= fun chosen => chosen.read rest := by
  obtain ⟨hhelp, hexplain, hbare⟩ := ne_of_isBound hswitch
  rw [Choices.read]
  · cases choices.takeValue switch value <;> rfl
  · exact hhelp
  · exact hexplain
  · exact hbare

theorem Choices.read_valueMissing (hswitch : switch = .since ∨ switch = .till) (choices : Choices)
    {rest : List Argument} (h : ¬ ∃ word more, rest = .plain word :: more) :
    choices.read (.option switch none :: rest) = .error (.valueMissing switch) := by
  obtain ⟨hhelp, hexplain, hbare⟩ := ne_of_isBound hswitch
  rw [Choices.read]
  · exact hhelp
  · exact hexplain
  · exact hbare
  · exact fun word more hrest => h ⟨word, more, hrest⟩

/-- A value that stands for itself comes to its option before anything behind it is read. -/
theorem Gives.exists_ofWords (hswitch : switch = .since ∨ switch = .till)
    (hvalue : value.head? ≠ some '-') {given : List Text} (h : Gives switch value given)
    (after : List Text) :
    ∃ arguments, Argument.ofWords (given ++ after) = (Argument.ofWords after).map (arguments ++ ·) ∧
      ∀ (choices : Choices) rest, choices.read (arguments ++ rest) =
        choices.takeValue switch value >>= fun chosen => chosen.read rest := by
  cases h with
  | @apart start hlong hstart =>
      refine ⟨[.option switch none, .plain value], ?_,
        fun choices => Choices.read_apart hswitch choices value⟩
      rw [List.cons_append, List.singleton_append,
        Argument.ofWords_cons (ne_dashesWord_of_startingWith hstart)
          (ofWord_of_startingWith hlong hstart),
        Argument.ofWords_cons (ne_dashesWord hvalue) (ofWord_eq_plain_iff.mpr (.inl hvalue))]
      cases Argument.ofWords after <;> rfl
  | @attached start hlong hstart =>
      exact ⟨[.option switch (some value)],
        Argument.ofWords_cons (attached_ne_dashesWord start value)
          (ofWord_of_attached hlong hstart) after,
        fun choices => Choices.read_attached choices switch value⟩

/-- What is read of an option and a bad value is a fault: that of the value, or that there is none
where the value does not stand for itself. -/
theorem Gives.read_eq_error (hswitch : switch = .since ∨ switch = .till) {given after : List Text}
    (h : Gives switch value given) {arguments : List Argument}
    (harguments : Argument.ofWords (given ++ after) = .ok arguments) {choices : Choices}
    {fault : RequestFault} (hfault : choices.takeValue switch value = .error fault) :
    choices.read arguments = .error fault ∨
      choices.read arguments = .error (.valueMissing switch) := by
  cases h with
  | @attached start hlong hstart =>
      rw [List.singleton_append, Argument.ofWords_cons (attached_ne_dashesWord start value)
        (ofWord_of_attached hlong hstart)] at harguments
      obtain ⟨others, -, rfl⟩ := exists_of_map_eq_ok harguments
      rw [Choices.read_attached, hfault]
      exact .inl rfl
  | @apart start hlong hstart =>
      rw [List.cons_append, List.singleton_append,
        Argument.ofWords_cons (ne_dashesWord_of_startingWith hstart)
          (ofWord_of_startingWith hlong hstart)] at harguments
      obtain ⟨others, hothers, rfl⟩ := exists_of_map_eq_ok harguments
      by_cases hplain : ∃ word more, others = .plain word :: more
      · -- the only plain word in this place is the value
        obtain ⟨word, more, rfl⟩ := hplain
        obtain rfl : value = word := by
          rw [Argument.ofWords] at hothers
          split at hothers
          · cases hothers
          · obtain ⟨argument, hargument, h⟩ := exists_of_bind_eq_ok hothers
            obtain ⟨_, -, h⟩ := exists_of_bind_eq_ok h
            obtain ⟨rfl, -⟩ := List.cons.inj (Except.ok.inj h)
            exact eq_of_ofWord_eq_plain hargument
        rw [Choices.read_apart hswitch, hfault]
        exact .inl rfl
      · exact .inr (Choices.read_valueMissing hswitch choices hplain)

theorem Choices.takeValue_eq_error (hswitch : switch = .since ∨ switch = .till)
    {fault : RequestFault} (h : Choices.boundOf switch value = .error fault) (choices : Choices) :
    choices.takeValue switch value = .error fault := by
  rcases hswitch with rfl | rfl
  · rw [Choices.takeValue, h]
    rfl
  · rw [Choices.takeValue, h]
    rfl

end

/-! ## Command lines -/

/-- Words are read to their end without a fault and without a call for help, and none of them is the
two dashes. -/
structure AreRead (words : List Text) (choices : Choices) : Prop where
  dashes : dashesWord ∉ words
  read : ∃ arguments, Argument.ofWords words = .ok arguments ∧
    Choices.start.read arguments = .ok choices
  help : choices.help = false

/-- A command line comes to a text as the value of an option for a bound; `after` are the words
behind it. -/
inductive Reads (text : Text) (after : List Text) : List Text → Prop
  | intro {before given : List Text} {choices : Choices} {switch : Switch}
      (hbefore : AreRead before choices) (hswitch : switch = .since ∨ switch = .till)
      (hgiven : Gives switch text given) : Reads text after (before ++ (given ++ after))

section

variable {before rest : List Text} {choices : Choices}

theorem AreRead.ofWords_append (h : AreRead before choices) (rest : List Text) :
    Request.ofWords (before ++ rest) =
      (Argument.ofWords rest).mapError .ambiguous >>= fun others =>
        choices.read others >>= Choices.request := by
  obtain ⟨arguments, hwords, hread⟩ := h.read
  rw [Request.ofWords, Argument.ofWords_append h.dashes hwords]
  cases Argument.ofWords rest with
  | error ambiguity => rfl
  | ok others =>
      show (Choices.start.read (arguments ++ others) >>= Choices.request) = _
      rw [Choices.read_append hread h.help]
      rfl

theorem AreRead.ofWords_append_eq_error (h : AreRead before choices) {others : List Argument}
    (hrest : Argument.ofWords rest = .ok others) {fault : RequestFault}
    (hfault : choices.read others = .error fault) :
    Request.ofWords (before ++ rest) = .error fault := by
  rw [h.ofWords_append, hrest]
  show (choices.read others >>= Choices.request) = _
  rw [hfault]
  rfl

theorem AreRead.ofWords_append_of_ambiguous (h : AreRead before choices) {ambiguity : Ambiguity}
    (hrest : Argument.ofWords rest = .error ambiguity) :
    Request.ofWords (before ++ rest) = .error (.ambiguous ambiguity) := by
  rw [h.ofWords_append, hrest]
  rfl

end

theorem run_of_ofWords_eq_error {words : List Text} {fault : RequestFault}
    (h : Request.ofWords words = .error fault) (hfault : fault ≠ .boundOutOfRange) (host : Host) :
    run host words = .ok (.misused fault) := by
  rw [run, h]
  cases fault with
  | boundOutOfRange => exact absurd rfl hfault
  | _ => rfl

/-- A text that is no stamp is refused, whatever stands behind it. -/
theorem Reads.run_of_notAStamp {text : Text} {after words : List Text} (h : Reads text after words)
    (hbound : Window.bound text = .error .notAStamp) (host : Host) :
    ∃ fault, run host words = .ok (.misused fault) := by
  obtain @⟨before, given, choices, switch, hbefore, hswitch, hgiven⟩ := h
  cases hrest : Argument.ofWords (given ++ after) with
  | error ambiguity =>
      have hwords := hbefore.ofWords_append_of_ambiguous hrest
      exact ⟨_, run_of_ofWords_eq_error hwords (by simp) host⟩
  | ok others =>
      have hvalue : Choices.boundOf switch text = .error (.notAStamp switch text) := by
        rw [Choices.boundOf, hbound]
      rcases hgiven.read_eq_error hswitch hrest
        (Choices.takeValue_eq_error hswitch hvalue choices) with hfault | hfault
      · have hwords := hbefore.ofWords_append_eq_error hrest hfault
        exact ⟨_, run_of_ofWords_eq_error hwords (by simp) host⟩
      · have hwords := hbefore.ofWords_append_eq_error hrest hfault
        exact ⟨_, run_of_ofWords_eq_error hwords (by simp) host⟩

/-- A bound out of the calendar breaks the command line off, unless an ambiguous word behind it has
been found before. -/
theorem Reads.run_of_outOfRange {text : Text} {after words : List Text} (h : Reads text after words)
    (hbound : Window.bound text = .error .outOfRange) (host : Host) :
    run host words =
      match Argument.ofWords after with
      | .error ambiguity => .ok (.misused (.ambiguous ambiguity))
      | .ok _ => .error .boundOutOfRange := by
  obtain @⟨before, given, choices, switch, hbefore, hswitch, hgiven⟩ := h
  have hplain := (Window.bound_eq_outOfRange_iff.mp hbound).head?_ne
  obtain ⟨front, hrest, hvalues⟩ := hgiven.exists_ofWords hswitch hplain after
  cases hafter : Argument.ofWords after with
  | error ambiguity =>
      rw [hafter] at hrest
      exact run_of_ofWords_eq_error (hbefore.ofWords_append_of_ambiguous hrest) (by simp) host
  | ok others =>
      have hvalue : Choices.boundOf switch text = .error .boundOutOfRange := by
        rw [Choices.boundOf, hbound]
      have hfault : choices.read (front ++ others) = .error .boundOutOfRange := by
        rw [hvalues, Choices.takeValue_eq_error hswitch hvalue]
        rfl
      rw [hafter] at hrest
      rw [run, hbefore.ofWords_append_eq_error hrest hfault]

/-- A text that is no bound is refused under the name of the bound, in a search and with code two on
the command line, unless it is a stamp out of the calendar. -/
theorem bound_is_refused_iff (text : Text) :
    (∀ name, ((∃ instant, Window.bound text = .ok instant) ∨
        Window.bound text = .error .notAStamp ∧
          name <+: BoundFault.notAStamp.message name text) ↔ ¬ IsOutOfCalendar text) ∧
      ((¬ ∃ instant, Window.bound text = .ok instant) →
        (∀ (host : Host) (hardLimit : Int) (search : Search) (name : Text),
          search.Reads name text →
            (Search.run host hardLimit search = .error (.bound name text .notAStamp) ∨
                Search.run host hardLimit search = .error (.scan .limitNotPositive) ↔
              ¬ (IsOutOfCalendar text ∧ 0 < search.limit.getD Search.defaultLimit))) ∧
        ∀ (host : Host) (words after : List Text), Reads text after words →
          ((∃ outcome, run host words = .ok outcome ∧ outcome.code = 2) ↔
            ¬ (IsOutOfCalendar text ∧ ∃ arguments, Argument.ofWords after = .ok arguments))) := by
  refine ⟨fun name => Window.bound_isRefused_iff name text, fun hnone => ?_⟩
  rw [← Window.bound_eq_outOfRange_iff]
  cases hbound : Window.bound text with
  | ok instant => exact absurd ⟨instant, hbound⟩ hnone
  | error fault =>
      cases fault with
      | notAStamp =>
          constructor
          · intro host hardLimit search name hreads
            rw [Search.run_of_reads hreads hbound]
            by_cases hlimit : search.limit.getD Search.defaultLimit ≤ 0
            · simp [hlimit]
            · simp [hlimit]
          · intro host words after hreads
            obtain ⟨fault, hrun⟩ := hreads.run_of_notAStamp hbound host
            simp [hrun, Outcome.misused, Outcome.refused]
      | outOfRange =>
          constructor
          · intro host hardLimit search name hreads
            rw [Search.run_of_reads hreads hbound]
            by_cases hlimit : search.limit.getD Search.defaultLimit ≤ 0
            · simp [hlimit]
            · simp [hlimit, Int.not_le.mp hlimit]
          · intro host words after hreads
            rw [hreads.run_of_outOfRange hbound host]
            cases Argument.ofWords after with
            | error ambiguity => simp [Outcome.misused, Outcome.refused]
            | ok arguments => simp

/-- The first midnight of the calendar on a clock east of universal time. -/
def firstMidnight : Text := "0001-01-01T00:00:00+01:00".toList

theorem bound_firstMidnight : Window.bound firstMidnight = .error .outOfRange := by
  decide +kernel

/-- The first midnight is refused neither by a search nor on the command line, and a word is. -/
theorem bound_is_refused_of_firstMidnight :
    ¬ (Search.run readyHost Search.hardLimit ⟨['a'], ['q'], some firstMidnight, none, none, true⟩ =
          .error (.bound "since".toList firstMidnight .notAStamp) ∨
        Search.run readyHost Search.hardLimit ⟨['a'], ['q'], some firstMidnight, none, none, true⟩ =
          .error (.scan .limitNotPositive)) ∧
      (¬ ∃ outcome, run readyHost [['q'], ['a'], "--until".toList ++ '=' :: firstMidnight] =
        .ok outcome ∧ outcome.code = 2) ∧
      ∃ outcome, run readyHost [['q'], ['a'], "--since".toList, "yesterday".toList] =
        .ok outcome ∧ outcome.code = 2 := by
  have hread : AreRead [['q'], ['a']] ((Choices.start.takeWord ['q']).takeWord ['a']) :=
    ⟨by decide, ⟨_, rfl, rfl⟩, rfl⟩
  have hmidnight : ¬ ∃ instant, Window.bound firstMidnight = .ok instant := by
    rintro ⟨instant, hinstant⟩
    rw [bound_firstMidnight] at hinstant
    cases hinstant
  have hout : IsOutOfCalendar firstMidnight :=
    Window.bound_eq_outOfRange_iff.mp bound_firstMidnight
  have hword : Window.bound "yesterday".toList = .error .notAStamp := by decide +kernel
  obtain ⟨hsearch, hcommand⟩ := (bound_is_refused_iff firstMidnight).2 hmidnight
  refine ⟨?_, ?_, ?_⟩
  · refine (hsearch readyHost Search.hardLimit _ _ (.since rfl (by decide))).not.mpr ?_
    exact not_not_intro ⟨hout, by decide⟩
  · have hreads : Reads firstMidnight []
        [['q'], ['a'], "--until".toList ++ '=' :: firstMidnight] :=
      .intro hread (.inr rfl) (.attached (by decide) (by decide))
    refine (hcommand readyHost _ _ hreads).not.mpr ?_
    exact not_not_intro ⟨hout, [], rfl⟩
  · have hreads : Reads "yesterday".toList []
        [['q'], ['a'], "--since".toList, "yesterday".toList] :=
      .intro hread (.inl rfl) (.apart (by decide) (by decide))
    have hnone : ¬ ∃ instant, Window.bound "yesterday".toList = .ok instant := by
      rintro ⟨instant, hinstant⟩
      rw [hword] at hinstant
      cases hinstant
    refine (((bound_is_refused_iff "yesterday".toList).2 hnone).2 readyHost _ _ hreads).mpr ?_
    rintro ⟨hout, -⟩
    rw [Window.bound_eq_outOfRange_iff.mpr hout] at hword
    cases hword

end CommandLine

end LogSieve
