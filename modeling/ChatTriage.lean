import ChatTriage.Main
import ChatTriage.Proofs.CommandLine
import ChatTriage.Proofs.Elimination
import ChatTriage.Proofs.Exchange
import ChatTriage.Proofs.Flip
import ChatTriage.Proofs.HitCounts
import ChatTriage.Proofs.InlineFile
import ChatTriage.Proofs.LinkExtent
import ChatTriage.Proofs.LinkSpan
import ChatTriage.Proofs.Lossless
import ChatTriage.Proofs.Message
import ChatTriage.Proofs.Quotation
import ChatTriage.Proofs.Restriction
import ChatTriage.Proofs.Rivals
import ChatTriage.Proofs.RuleLookup
import ChatTriage.Proofs.TableDefects
import ChatTriage.Proofs.Votes
import ChatTriage.Proofs.LineEnds
import ChatTriage.Proofs.RemainingOrder
import ChatTriage.Proofs.Colour
import ChatTriage.Proofs.LanguageName
