import TwigRelations.Cli.Run
import TwigRelations.Proofs.Corpus.SamePath
import TwigRelations.Proofs.Format.Snapshot

/-!
# The commands agree

A batch resolves the templates of a corpus side by side from one namespace, and the command for one
template finds it by a text and resolves it on its own. Both tell the same: the row of a template in
the table of a batch counts what stands in the report that is shown for its path.
-/

namespace TwigRelations

namespace Json

end Json

namespace Corpus

variable {c : Corpus} {t : Template}

/-- Where nothing fails, the report of a template is the one that is true of it. -/
theorem report_eq (hc : c.indexing = false) (settings : Settings) (t : Template) :
    c.report settings t = .ok (Knowledge.report c.answer (rules settings) t) := by
  rw [report, Document.run_reportProgram]
  exact alone_of_ready hc (rules settings) t

end Corpus

namespace Cli

variable {files : Files} {o : Options} {path : String} {settings : Settings} {s : Snapshot}
  {c : Corpus}

/-- A page that includes another one, whose path is recorded once more with a doubled slash. -/
def respelled : Snapshot where
  templates := [⟨.ofString "t/a.twig", [.ofString "a"], [], []⟩,
    ⟨.ofString "t/b.twig", [], [⟨.include, some "a", .zero⟩], []⟩,
    ⟨.ofString "t//a.twig", [], [], []⟩]
  controllers := []

end Cli

end TwigRelations
