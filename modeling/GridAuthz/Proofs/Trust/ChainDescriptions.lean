import GridAuthz.Lsc
import GridAuthz.Proofs.Names.Patterns
import GridAuthz.Signature

/-!
# What a description of a chain fits

The names along a chain are the subjects of its certificates, leaf first, and then the issuer of the
last one (`ChainDescription.pathNames`). A description fits a chain if it lists these names in order;
the last one may be left out (`ChainDescription.isMatch_iff`).

So it makes no difference whether the chain ends with the certificate of that issuer
(`ChainDescription.isMatch_append_issuer`), while the order and the number of the listed names do make
one (`ChainDescription.isMatch_order_length`).
-/

namespace GridAuthz

namespace ChainDescription

/-- The names along a chain: the subjects, leaf first, and the issuer of the last certificate. -/
def pathNames (chain : List Certificate) : List Name :=
  chain.map (·.subject) ++ (chain.getLast?.map (·.issuer)).toList

theorem pathNames_cons_cons (c d : Certificate) (cs : List Certificate) :
    pathNames (c :: d :: cs) = c.subject :: pathNames (d :: cs) := by
  rw [pathNames, pathNames, List.getLast?_cons_cons, List.map_cons, List.cons_append]

theorem pathNames_of_getLast? {chain : List Certificate} {last : Certificate}
    (h : chain.getLast? = some last) :
    pathNames chain = chain.map (·.subject) ++ [last.issuer] := by
  rw [pathNames, h, Option.map_some, Option.toList_some]

/-- The patterns match the names, each the one in its place. -/
def Lists (patterns : List NamePattern) (names : List Name) : Prop :=
  List.Forall₂ (fun p n => p.isMatch n = true) patterns names

/-! ### Names in order -/

theorem describes_cons_iff {patterns : List NamePattern} {c : Certificate}
    {cs : List Certificate} :
    describes patterns (c :: cs) = true ↔
      Lists patterns ((c :: cs).map (·.subject)) ∨ Lists patterns (pathNames (c :: cs)) := by
  induction cs generalizing c patterns with
  | nil =>
    rcases patterns with _ | ⟨p, _ | ⟨q, _ | ⟨r, ps⟩⟩⟩ <;> simp [describes, Lists, pathNames]
  | cons d cs ih =>
    rw [pathNames_cons_cons, List.map_cons]
    cases patterns with
    | nil => simp [describes, Lists]
    | cons p ps =>
      rw [describes, Bool.and_eq_true, ih]
      simp only [Lists, List.forall₂_cons, and_or_left]

/-- A description fits a chain if it lists the names along it, of which the last one may be left
out. -/
theorem isMatch_iff {d : ChainDescription} {chain : List Certificate} (h : chain ≠ []) :
    d.isMatch chain = true ↔
      Lists d.names (chain.map (·.subject)) ∨ Lists d.names (pathNames chain) := by
  obtain ⟨c, cs, rfl⟩ := List.exists_cons_of_ne_nil h
  exact describes_cons_iff

theorem isMatch_nil (d : ChainDescription) : d.isMatch [] = false := by
  obtain ⟨names⟩ := d
  rcases names with _ | ⟨p, _ | ⟨q, ps⟩⟩ <;> simp [isMatch, describes]

theorem ne_nil_of_isMatch {d : ChainDescription} {chain : List Certificate}
    (h : d.isMatch chain = true) : chain ≠ [] := by
  rintro rfl
  rw [isMatch_nil] at h
  cases h

theorem length_of_isMatch {d : ChainDescription} {chain : List Certificate}
    (h : d.isMatch chain = true) :
    d.names.length = chain.length ∨ d.names.length = chain.length + 1 := by
  have hne := ne_nil_of_isMatch h
  rcases (isMatch_iff hne).1 h with h | h
  · exact .inl (by simpa using h.length_eq)
  · refine .inr (h.length_eq.trans ?_)
    rw [pathNames_of_getLast? (List.getLast?_eq_some_getLast hne)]
    simp

/-- The names that are listed are the first ones along the chain. -/
theorem lists_take_of_isMatch {d : ChainDescription} {chain : List Certificate}
    (h : d.isMatch chain = true) : Lists d.names ((pathNames chain).take d.names.length) := by
  have hne := ne_nil_of_isMatch h
  rcases (isMatch_iff hne).1 h with h | h
  · rwa [pathNames_of_getLast? (List.getLast?_eq_some_getLast hne), List.take_left' h.length_eq.symm]
  · rwa [List.take_of_length_le h.length_eq.ge]

/-! ### The certificate of the last issuer -/

theorem lists_append_congr {patterns : List NamePattern} {names : List Name} {n m : Name}
    (h : n.agrees m = true) : Lists patterns (names ++ [n]) ↔ Lists patterns (names ++ [m]) := by
  induction names generalizing patterns with
  | nil => cases patterns <;> simp [Lists, Name.isMatch_eq_of_agrees h]
  | cons k names ih =>
    cases patterns with
    | nil => simp [Lists]
    | cons p patterns =>
      simp only [Lists, List.cons_append, List.forall₂_cons] at ih ⊢
      rw [ih]

/-- A description that lists the issuer of the last certificate fits the chain with a certificate of
that issuer at its end exactly if it fits the chain without. -/
theorem isMatch_append_issuer {d : ChainDescription} {chain : List Certificate}
    {last a : Certificate} (hlast : chain.getLast? = some last)
    (hissuer : last.issuer.agrees a.subject = true)
    (hlength : d.names.length = chain.length + 1) :
    d.isMatch (chain ++ [a]) = true ↔ d.isMatch chain = true := by
  have hne : chain ≠ [] := by
    rintro rfl
    cases hlast
  have hpath := pathNames_of_getLast? hlast
  have hlong : ¬Lists d.names (pathNames (chain ++ [a])) := by
    intro h
    have hlen := h.length_eq
    rw [pathNames_of_getLast? List.getLast?_concat] at hlen
    simp only [List.length_append, List.length_map, List.length_singleton] at hlen
    omega
  have hshort : ¬Lists d.names (chain.map (·.subject)) := by
    intro h
    have hlen := h.length_eq
    rw [List.length_map] at hlen
    omega
  calc d.isMatch (chain ++ [a]) = true
      ↔ Lists d.names ((chain ++ [a]).map (·.subject)) := by
        rw [isMatch_iff (by simp), or_iff_left hlong]
    _ ↔ Lists d.names (chain.map (·.subject) ++ [a.subject]) := by
        rw [List.map_append, List.map_singleton]
    _ ↔ Lists d.names (pathNames chain) := by
        rw [hpath, lists_append_congr hissuer]
    _ ↔ d.isMatch chain = true := by
        rw [isMatch_iff hne, or_iff_right hshort]

end ChainDescription

namespace Sample

/-- A certificate of which only the names matter. -/
def issuedTo (subject issuer : Name) : Certificate where
  body := {
    version := .v3
    serialNumber := ⟨[33], by decide, by decide⟩
    signature := ⟨Algorithm.sha256WithRsa, none⟩
    issuer
    validity :=
      ⟨.general ⟨2003, 1, 1, 0, 0, 0, by decide⟩, .general ⟨2004, 1, 1, 0, 0, 0, by decide⟩⟩
    subject
    publicKey := ⟨⟨Algorithm.rsaEncryption, none⟩, .ofBytes []⟩
    issuerUniqueId := none
    subjectUniqueId := none
    extensions := none }
  signatureAlgorithm := ⟨Algorithm.sha256WithRsa, none⟩
  signature := .ofBytes []

/-- The name of a host. -/
def localName : Name := Name.extend ⟨[]⟩ ⟨AttributeType.commonName, .ofUtf8 "localhost"⟩

/-- A pattern for the host. -/
def localPattern : NamePattern := ⟨"/CN=localhost", [(AttributeType.commonName, " localhost ")]⟩

/-- Two attributes in one relative name. -/
def doubleName : Name :=
  ⟨[⟨[⟨AttributeType.commonName, .ofUtf8 "ann"⟩,
    ⟨AttributeType.emailAddress, .ofUtf8 "ann@localhost"⟩], by decide +kernel⟩]⟩

/-- The same attributes, the first one written in another way. -/
def doubleNameInCapitals : Name :=
  ⟨[⟨[⟨AttributeType.commonName, ⟨.printableString, [0x41, 0x4E, 0x4E]⟩⟩,
    ⟨AttributeType.emailAddress, .ofUtf8 "ann@localhost"⟩], by decide +kernel⟩]⟩

/-- A pattern for both. -/
def doublePattern : NamePattern :=
  ⟨"/CN=Ann/E=ann@localhost",
    [(AttributeType.commonName, " ann "), (AttributeType.emailAddress, " ann@localhost ")]⟩

end Sample

namespace ChainDescription

theorem isMatch_append_issuer_sample :
    isMatch ⟨[Sample.localPattern, Sample.doublePattern]⟩
        [Sample.issuedTo Sample.localName Sample.doubleName] = true ∧
      isMatch ⟨[Sample.localPattern, Sample.doublePattern]⟩
        [Sample.issuedTo Sample.localName Sample.doubleName,
          Sample.issuedTo Sample.doubleNameInCapitals Sample.localName] = true := by
  have hshort : isMatch ⟨[Sample.localPattern, Sample.doublePattern]⟩
      [Sample.issuedTo Sample.localName Sample.doubleName] = true := by decide +kernel
  have hagrees : (Sample.issuedTo Sample.localName Sample.doubleName).issuer.agrees
      (Sample.issuedTo Sample.doubleNameInCapitals Sample.localName).subject = true := by
    decide +kernel
  exact ⟨hshort, (isMatch_append_issuer (List.getLast?_singleton ..) hagrees rfl).2 hshort⟩

/-! ### Order and number of the names -/

theorem Lists.exists_of_mem {patterns : List NamePattern} {names : List Name}
    (h : Lists patterns names) {p : NamePattern} (hp : p ∈ patterns) :
    ∃ n ∈ names, p.isMatch n = true := by
  induction h with
  | nil => cases hp
  | cons hmatch _ ih =>
    obtain rfl | hp := List.mem_cons.1 hp
    · exact ⟨_, List.mem_cons_self .., hmatch⟩
    · obtain ⟨n, hn, hmatch⟩ := ih hp
      exact ⟨n, List.mem_cons_of_mem _ hn, hmatch⟩

/-- Patterns match names of which no two agree in one order only. -/
theorem Lists.eq_of_perm {patterns patterns' : List NamePattern} {names : List Name}
    (h : Lists patterns names) (h' : Lists patterns' names) (hperm : patterns'.Perm patterns)
    (hsingle : ∀ n ∈ names, n.IsSingleValued)
    (hdistinct : names.Pairwise fun n m => n.agrees m = false) : patterns' = patterns := by
  induction h generalizing patterns' with
  | nil => exact hperm.eq_nil
  | @cons p n ps ns hp hps ih =>
    cases h' with
    | @cons q _ qs _ hq hqs =>
      obtain ⟨hn, hns⟩ := List.forall_mem_cons.1 hsingle
      obtain ⟨hdifferent, hdistinct⟩ := List.pairwise_cons.1 hdistinct
      -- A pattern from further down would match a second name besides the first.
      have heq : q = p := by
        rcases List.mem_cons.1 (hperm.mem_iff.1 (List.mem_cons_self ..)) with heq | hmem
        · exact heq
        · obtain ⟨m, hm, hqm⟩ := Lists.exists_of_mem hps hmem
          have hagrees := Name.agrees_of_isMatch hn (hns m hm) hq hqm
          rw [hdifferent m hm] at hagrees
          cases hagrees
      subst heq
      rw [ih hqs hperm.cons_inv hns hdistinct]

/-- Of the descriptions with the same names one at most fits a chain on which no two names agree. -/
theorem eq_of_perm_of_isMatch {d d' : ChainDescription} {chain : List Certificate}
    (h : d.isMatch chain = true) (h' : d'.isMatch chain = true) (hperm : d'.names.Perm d.names)
    (hsingle : ∀ n ∈ pathNames chain, n.IsSingleValued)
    (hdistinct : (pathNames chain).Pairwise fun n m => n.agrees m = false) : d' = d := by
  have hlists := lists_take_of_isMatch h
  have hlists' := lists_take_of_isMatch h'
  rw [hperm.length_eq] at hlists'
  have heq : d'.names = d.names := hlists.eq_of_perm hlists' hperm
    (fun n hn => hsingle n (List.mem_of_mem_take hn)) (hdistinct.sublist (List.take_sublist ..))
  cases d
  cases d'
  exact congrArg ChainDescription.mk heq

theorem isMatch_eq_false_of_length {d : ChainDescription} {chain : List Certificate}
    (h : d.names.length < chain.length ∨ chain.length + 1 < d.names.length) :
    d.isMatch chain = false := by
  rw [← Bool.not_eq_true]
  intro hmatch
  have hlength := length_of_isMatch hmatch
  omega

/-- Nothing is described without a name. -/
theorem isMatch_nil_names (chain : List Certificate) : isMatch ⟨[]⟩ chain = false := by
  cases chain with
  | nil => exact isMatch_nil _
  | cons c cs => exact isMatch_eq_false_of_length (.inl (Nat.zero_lt_succ _))

/-- A description with the same names in another order does not fit, if no two names along the chain
agree. One with fewer names than certificates does not, nor does one with two names more. -/
theorem isMatch_order_length :
    (∀ (d : ChainDescription) (chain : List Certificate), d.isMatch chain = true →
      (∀ n ∈ pathNames chain, n.IsSingleValued) →
      (pathNames chain).Pairwise (fun n m => n.agrees m = false) →
      ∀ d' : ChainDescription, d'.names.Perm d.names → d' ≠ d → d'.isMatch chain = false) ∧
    (∀ (d : ChainDescription) (chain : List Certificate),
      d.names.length < chain.length ∨ chain.length + 1 < d.names.length →
        d.isMatch chain = false) ∧
    (∀ chain : List Certificate, isMatch ⟨[]⟩ chain = false) ∧
    ∀ d : ChainDescription, d.isMatch [] = false := by
  refine ⟨?_, fun d chain h => isMatch_eq_false_of_length h, isMatch_nil_names, isMatch_nil⟩
  intro d chain hmatch hsingle hdistinct d' hperm hne
  rw [← Bool.not_eq_true]
  intro hmatch'
  exact hne (eq_of_perm_of_isMatch hmatch hmatch' hperm hsingle hdistinct)

theorem isMatch_order_length_sample :
    isMatch ⟨[Sample.localPattern, Sample.commonNamePattern]⟩
        [Sample.issuedTo Sample.localName Sample.inCapitals] = true ∧
      isMatch ⟨[Sample.commonNamePattern, Sample.localPattern]⟩
        [Sample.issuedTo Sample.localName Sample.inCapitals] = false ∧
      isMatch ⟨[Sample.localPattern, Sample.commonNamePattern, Sample.localPattern]⟩
        [Sample.issuedTo Sample.localName Sample.inCapitals] = false := by
  obtain ⟨horder, hlength, -, -⟩ := isMatch_order_length
  have hmatch : isMatch ⟨[Sample.localPattern, Sample.commonNamePattern]⟩
      [Sample.issuedTo Sample.localName Sample.inCapitals] = true := by decide +kernel
  have hnames : pathNames [Sample.issuedTo Sample.localName Sample.inCapitals] =
      [Sample.localName, Sample.inCapitals] := rfl
  have hsingle : ∀ n ∈ [Sample.localName, Sample.inCapitals], n.IsSingleValued := by
    simp [Name.IsSingleValued, Sample.localName, Sample.inCapitals, Name.extend,
      Der.SetOf.singleton]
  have hdistinct : [Sample.localName, Sample.inCapitals].Pairwise
      fun n m => n.agrees m = false := by
    decide +kernel
  exact ⟨hmatch, horder _ _ hmatch hsingle hdistinct ⟨_⟩ (List.Perm.swap ..) (by decide),
    hlength _ _ (.inr (by decide))⟩

end ChainDescription

end GridAuthz
