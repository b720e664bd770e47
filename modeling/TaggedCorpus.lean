import TaggedCorpus.Main
import TaggedCorpus.Proofs.Collector
import TaggedCorpus.Proofs.Concatenation
import TaggedCorpus.Proofs.CorpusFile
import TaggedCorpus.Proofs.Feed
import TaggedCorpus.Proofs.Partition
import TaggedCorpus.Proofs.Sentence.Append
import TaggedCorpus.Proofs.Sentence.Classification
import TaggedCorpus.Proofs.Sentence.Label
import TaggedCorpus.Proofs.Sentence.Stack
import TaggedCorpus.Proofs.Service.Decode
import TaggedCorpus.Proofs.Service.Project
import TaggedCorpus.Proofs.Span.FirstOverlap
import TaggedCorpus.Proofs.Span.Relations
import TaggedCorpus.Proofs.Stream.Numbering
import TaggedCorpus.Proofs.Stream.Progress
import TaggedCorpus.Span.Comparison
import TaggedCorpus.Stream.Directory
