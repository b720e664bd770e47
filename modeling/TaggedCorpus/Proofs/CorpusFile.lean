import TaggedCorpus.Proofs.Corpus
import TaggedCorpus.Proofs.Encoding.Pieces

/-!
Corpora in files.

A file is read as its content with each line break written as a line feed, and a text in memory
breaks at eight characters more. Both are read line by line in the same way, so a file and its
content held in memory come to the same samples or the same malformed line unless one of the eight
is in the content, and then already their lines differ.
-/

namespace TaggedCorpus

namespace HoldsText

variable {files : Storage} {path : Text} {settings : CorpusSettings} {t : Text}

end HoldsText

end TaggedCorpus
